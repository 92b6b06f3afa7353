import Mathlib.Data.List.Sort
import ContractCompiler.Proofs.Files.Below
import ContractCompiler.Proofs.Files.Preservation
import ContractCompiler.Proofs.Project.Discovery

/-!
# The order of registration

Contracts are registered in the order of the paths of their documents, and in the order of a document
within it. What the order of the records is in a file tree has no influence, and a change of one file
leaves what the others register as it is.

* `documents_eq_insertionSort` — walking the directories comes to the documents as sorting all of them
  does.
* `load_eq` — what is loaded, document by document.
* `Relisted.load_eq` — the order in which directories are listed does not matter.
* `ChangesAt.documents_eq` — a change of one file leaves the other documents where they are.
* `load_removeBelow` — in particular one that is removed.
* `load_in_path_order` — all of it, for every directory.
-/

namespace ContractCompiler

open FileTree

/-! ## What a document comes to -/

/-- The verdicts on the entries of the document that a file holds, in order. -/
def FileContent.verdicts (content : FileContent) :
    Except Failure (List (Except SchemaError Contract)) :=
  match content.asText with
  | .error e => .error (.file e)
  | .ok source =>
    match Contract.ofDocument source with
    | .error f => .error (.yaml f)
    | .ok entries => .ok entries

/-- The valid entries of a document, in order. -/
def accepted : Except Failure (List (Except SchemaError Contract)) → List Contract
  | .error _ => []
  | .ok entries => entries.filterMap Except.toOption

/-- What is wrong with a document: all of it, or its invalid entries, in order. -/
def refused : Except Failure (List (Except SchemaError Contract)) → List Failure
  | .error f => [f]
  | .ok entries => entries.filterMap fun
    | .ok _ => none
    | .error e => some (.schema e)

namespace FileTree.Document

/-- The verdicts on a document below a directory; it cannot be read where its path is too long. -/
def verdicts (dir : Path) (d : Document) : Except Failure (List (Except SchemaError Contract)) :=
  if maxPathBytes < (d.pathBelow dir).text.utf8ByteSize then .error (.file .nameTooLong)
  else d.content.verdicts

/-- The contracts that a document below a directory registers. -/
def contracts (dir : Path) (d : Document) : List Contract := accepted (d.verdicts dir)

/-- What a document below a directory fails with. -/
def failures (dir : Path) (d : Document) : List (Path × Failure) :=
  (refused (d.verdicts dir)).map fun f => (d.pathBelow dir, f)

end FileTree.Document

namespace LoadedContracts

variable {t t' : FileTree} {dir path : Path} {l : Location} {docs : List Document}

/-- What documents below a directory register, one after the other. -/
def ofDocuments (dir : Path) (docs : List Document) : LoadedContracts :=
  ⟨docs.flatMap (Document.contracts dir), docs.flatMap (Document.failures dir)⟩

theorem ofEntries_eq (path : Path) (entries : List (Except SchemaError Contract)) :
    ofEntries path entries =
      ⟨accepted (.ok entries), (refused (.ok entries)).map fun f => (path, f)⟩ := by
  induction entries with
  | nil => rfl
  | cons verdict rest ih => cases verdict <;> rw [ofEntries, ih] <;> rfl

/-- **A document registers its valid entries, and fails with the others.** -/
theorem ofFile_pathBelow (ht : t.WellFormed) (hdir : t.find dir = .ok (l, .directory)) {d : Document}
    (hd : t.IsContractDocument l d) :
    ofFile t (d.pathBelow dir) = ⟨d.contracts dir, d.failures dir⟩ := by
  rw [Document.failures, Document.contracts, Document.verdicts, ofFile, Document.pathBelow,
    ht.readText_below hdir hd.entry]
  by_cases hlong : maxPathBytes < (dir.below d.names).text.utf8ByteSize
  · rw [if_pos hlong, if_pos hlong]
    rfl
  · rw [if_neg hlong, if_neg hlong, FileContent.verdicts]
    cases d.content.asText with
    | error e => rfl
    | ok text =>
      cases hdocument : Contract.ofDocument text with
      | error f => simp only [hdocument]; rfl
      | ok entries => simp only [hdocument]; exact ofEntries_eq _ entries

theorem ofFiles_pathBelow (ht : t.WellFormed) (hdir : t.find dir = .ok (l, .directory))
    (hdocs : ∀ d ∈ docs, t.IsContractDocument l d) :
    ofFiles t (docs.map (Document.pathBelow dir)) = ofDocuments dir docs := by
  induction docs with
  | nil => rfl
  | cons d rest ih =>
    obtain ⟨hd, hrest⟩ := List.forall_mem_cons.1 hdocs
    rw [List.map_cons, ofFiles, ih hrest, ofFile_pathBelow ht hdir hd]
    rfl

end LoadedContracts

/-! ## The documents of a directory -/

namespace FileTree

variable {t t' : FileTree} {dir : Path} {l : Location} {names : List String}

/-- The contract documents below a location. -/
def documents (t : FileTree) (l : Location) : List Document :=
  t.documentsBelow (t.records.length + 1) l

theorem mem_documents_iff (ht : t.WellFormed) {d : Document} :
    d ∈ t.documents l ↔ t.IsContractDocument l d :=
  mem_documentsBelow_iff ht (by omega)

theorem documents_pairwise (ht : t.WellFormed) (l : Location) :
    (t.documents l).Pairwise Document.Before :=
  documentsBelow_pairwise ht _ l

/-- The contract document that a record stands for, as seen from a location. -/
def documentOf? (l : Location) (r : FileRecord) : Option Document :=
  match r.entry with
  | .directory => none
  | .file content =>
    let names := r.location.drop l.length
    if l.isPrefixOf r.location && names.getLast?.any isContractFile then some ⟨names, content⟩
    else none

theorem documentOf?_eq_some_iff {r : FileRecord} {d : Document} :
    documentOf? l r = some d ↔
      r.location = l ++ d.names ∧ r.entry = .file d.content ∧
        ∃ n, d.names.getLast? = some n ∧ isContractFile n = true := by
  unfold documentOf?
  constructor
  · intro h
    split at h
    · cases h
    · rename_i hentry
      dsimp only at h
      split at h
      · rename_i hdocument
        rw [Bool.and_eq_true, List.isPrefixOf_iff_prefix, Option.any_eq_true] at hdocument
        obtain ⟨⟨names, hnames⟩, hlast⟩ := hdocument
        rw [← hnames, List.drop_left] at h hlast
        obtain rfl := Option.some.inj h
        exact ⟨hnames.symm, hentry, hlast⟩
      · cases h
  · rintro ⟨hlocation, hentry, hlast⟩
    have hany : d.names.getLast?.any isContractFile = true := (Option.any_eq_true ..).2 hlast
    simp [hentry, hlocation, hany]

theorem isContractDocument_iff_record (ht : t.WellFormed) {d : Document} :
    t.IsContractDocument l d ↔ ∃ r ∈ t.records, documentOf? l r = some d := by
  simp only [isContractDocument_iff, documentOf?_eq_some_iff]
  constructor
  · rintro ⟨hentry, n, hlast, hfile⟩
    have hne : l ++ d.names ≠ [] := by
      refine List.append_ne_nil_of_right_ne_nil l fun hnil => ?_
      rw [hnil] at hlast
      cases hlast
    obtain ⟨r, hr, hlocation, hr'⟩ := (ht.get?_eq_some_iff hne).1 hentry
    exact ⟨r, hr, hlocation, hr', n, hlast, hfile⟩
  · rintro ⟨r, hr, hlocation, hentry, hlast⟩
    have hne : l ++ d.names ≠ [] := hlocation ▸ ht.proper r hr
    exact ⟨(ht.get?_eq_some_iff hne).2 ⟨r, hr, hlocation, hentry⟩, hlast⟩

/-- **Walking from directory to directory comes to the documents as sorting all of them does.** -/
theorem documents_eq_insertionSort (ht : t.WellFormed) (l : Location) :
    t.documents l =
      (t.records.filterMap (documentOf? l)).insertionSort fun d d' => d.names ≤ d'.names := by
  let sorted := (t.records.filterMap (documentOf? l)).insertionSort fun d d' => d.names ≤ d'.names
  have hperm : sorted.Perm (t.records.filterMap (documentOf? l)) := List.perm_insertionSort _ _
  have hle : sorted.Pairwise fun d d' => d.names ≤ d'.names := by
    have _ : Std.Total fun d d' : Document => d.names ≤ d'.names := ⟨fun d d' => le_total _ _⟩
    have _ : IsTrans Document fun d d' => d.names ≤ d'.names := ⟨fun _ _ _ => le_trans⟩
    exact List.pairwise_insertionSort _ _
  have hne : sorted.Pairwise fun d d' => d.names ≠ d'.names := by
    refine (hperm.pairwise_iff fun h => h.symm).2 ?_
    have hrecords : t.records.Pairwise fun r s => r.location ≠ s.location :=
      List.pairwise_map.1 ht.distinct
    refine List.pairwise_filterMap.2 (hrecords.imp fun {r s} hrs d hd d' hd' heq => ?_)
    exact hrs (by rw [(documentOf?_eq_some_iff.1 hd).1, (documentOf?_eq_some_iff.1 hd').1, heq])
  have hsorted : sorted.Pairwise Document.Before := (hle.and hne).imp fun h => lt_of_le_of_ne h.1 h.2
  refine (documents_pairwise ht l).eq_of_mem_iff hsorted fun d => ?_
  rw [hperm.mem_iff, List.mem_filterMap, mem_documents_iff ht, isContractDocument_iff_record ht]

/-- The documents of a directory stand before a place, at it or after it. -/
theorem documents_eq_append (ht : t.WellFormed) (l : Location) (names : List String) :
    t.documents l =
      (t.documents l).filter (fun d => decide (d.names < names)) ++
        (t.documents l).filter (fun d => decide (d.names = names)) ++
        (t.documents l).filter (fun d => decide (names < d.names)) := by
  have hsorted := documents_pairwise ht l
  refine hsorted.eq_of_mem_iff ?_ fun d => ?_
  · refine List.pairwise_append.2 ⟨List.pairwise_append.2 ⟨hsorted.filter _, hsorted.filter _, ?_⟩,
      hsorted.filter _, ?_⟩
    · intro d hd d' hd'
      have hlt : d.names < names := by simpa using (List.mem_filter.1 hd).2
      have heq : d'.names = names := by simpa using (List.mem_filter.1 hd').2
      rwa [Document.Before, heq]
    · intro d hd d' hd'
      have hgt : names < d'.names := by simpa using (List.mem_filter.1 hd').2
      rcases List.mem_append.1 hd with hd | hd
      · have hlt : d.names < names := by simpa using (List.mem_filter.1 hd).2
        exact lt_trans hlt hgt
      · have heq : d.names = names := by simpa using (List.mem_filter.1 hd).2
        rwa [Document.Before, heq]
  · simp only [List.mem_append, List.mem_filter, decide_eq_true_eq]
    constructor
    · intro hd
      rcases lt_trichotomy d.names names with hlt | heq | hgt
      · exact .inl (.inl ⟨hd, hlt⟩)
      · exact .inl (.inr ⟨hd, heq⟩)
      · exact .inr ⟨hd, hgt⟩
    · rintro ((⟨hd, -⟩ | ⟨hd, -⟩) | ⟨hd, -⟩) <;> exact hd

/-- **The documents are sorted by their paths.** -/
theorem pathBelow_pairwise (ht : t.WellFormed) (dir : Path) (l : Location) :
    ((t.documents l).map (Document.pathBelow dir)).Pairwise Path.Before := by
  have hsteps {d : Document} (hd : d ∈ t.documents l) : ∀ n ∈ d.names, Path.IsStep (.name n) :=
    fun n hn => (ht.isFileName ((mem_documents_iff ht).1 hd).entry n
      (List.mem_append_right l hn)).isStep
  exact List.pairwise_map.2 ((documents_pairwise ht l).imp_of_mem fun hd hd' h =>
    Path.before_below (hsteps hd) (hsteps hd') h)

/-- Directories can be opened where the paths of all of them are short enough. -/
theorem fits_of_records (ht : t.WellFormed) (hl : l ≠ [])
    (h : ∀ r ∈ t.records, r.entry = .directory →
      (dir.below (r.location.drop l.length)).text.utf8ByteSize ≤ maxPathBytes) : t.Fits dir l := by
  intro names hentry
  have hne : l ++ names ≠ [] := List.append_ne_nil_of_left_ne_nil hl names
  obtain ⟨r, hr, hlocation, hdirectory⟩ := (ht.get?_eq_some_iff hne).1 hentry
  have hshort := h r hr hdirectory
  rwa [hlocation, List.drop_left] at hshort

theorem contractFiles_of_find (hdir : t.find dir = .ok (l, .directory)) :
    t.contractFiles dir = t.contractFilesBelow (t.records.length + 1) dir l := by
  rw [contractFiles, hdir]

theorem contractFiles_eq (ht : t.WellFormed) (hdir : t.find dir = .ok (l, .directory))
    (hfits : t.Fits dir l) :
    t.contractFiles dir = .ok ((t.documents l).map (Document.pathBelow dir)) := by
  rw [contractFiles_of_find hdir, contractFilesBelow_eq ht (locate_of_find hdir).2 hfits, documents]

theorem contractFiles_eq_error (ht : t.WellFormed) (hdir : t.find dir = .ok (l, .directory))
    (hfits : ¬t.Fits dir l) :
    ∃ names, t.get? (l ++ names) = some .directory ∧
      maxPathBytes < (dir.below names).text.utf8ByteSize ∧
      t.contractFiles dir = .error (.unreadableEntry (dir.below names).text .nameTooLong) := by
  rw [contractFiles_of_find hdir]
  exact contractFilesBelow_eq_error ht (by omega) (locate_of_find hdir).2 hfits

/-- **What is loaded, document by document.** -/
theorem load_eq (ht : t.WellFormed) (hdir : t.find dir = .ok (l, .directory))
    (hfits : t.Fits dir l) :
    LoadedContracts.load t dir = .ok (.ofDocuments dir (t.documents l)) := by
  rw [LoadedContracts.load, contractFiles_eq ht hdir hfits]
  exact congrArg Except.ok
    (LoadedContracts.ofFiles_pathBelow ht hdir fun d hd => (mem_documents_iff ht).1 hd)

/-! ## The order of listing -/

/-- The other tree has the same records, perhaps in another order. -/
structure Relisted (t t' : FileTree) : Prop where
  workingDir : t'.workingDir = t.workingDir
  records : t'.records.Perm t.records

namespace Relisted

variable (h : t.Relisted t') (ht : t.WellFormed)

include h ht

theorem get?_eq (m : Location) : t'.get? m = t.get? m := by
  by_cases hm : m = []
  · subst hm
    rfl
  · have hdepth : ∀ r ∈ t'.records, r.depth = r.location.length := fun r hr =>
      ht.depth r (h.records.mem_iff.1 hr)
    have hdistinct : (t'.records.map FileRecord.location).Nodup :=
      (h.records.map FileRecord.location).nodup_iff.2 ht.distinct
    refine Option.ext fun e => ?_
    rw [ht.get?_eq_some_iff hm, get?, if_neg hm, entryAt_eq_some_iff hdepth hdistinct]
    simp only [h.records.mem_iff]

theorem wellFormed : t'.WellFormed where
  depth r hr := ht.depth r (h.records.mem_iff.1 hr)
  distinct := (h.records.map FileRecord.location).nodup_iff.2 ht.distinct
  proper r hr := ht.proper r (h.records.mem_iff.1 hr)
  names r hr := ht.names r (h.records.mem_iff.1 hr)
  closed r hr := by
    rw [h.get?_eq ht]
    exact ht.closed r (h.records.mem_iff.1 hr)

theorem children_eq (m : Location) : t'.children m = t.children m := by
  let earlier (a b : String × FileEntry) : Prop := a.1 < b.1
  have hirrefl : Std.Irrefl earlier := ⟨fun a => lt_irrefl a.1⟩
  have hantisymm : Std.Antisymm earlier := ⟨fun _ _ hab hba => absurd hba (lt_asymm hab)⟩
  have hsorted : (t.children m).Pairwise earlier := ht.children_pairwise m
  have hsorted' : (t'.children m).Pairwise earlier := (h.wellFormed ht).children_pairwise m
  refine hsorted'.eq_of_mem_iff hsorted fun ⟨n, e⟩ => ?_
  rw [(h.wellFormed ht).mem_children_iff, ht.mem_children_iff, h.get?_eq ht]

theorem walk_eq {cs : List PathComponent} : ∀ m : Location, t'.walk m cs = t.walk m cs := by
  induction cs with
  | nil => exact fun _ => rfl
  | cons c rest ih =>
    intro m
    rw [walk.eq_def, walk.eq_def t, h.get?_eq ht]
    simp only [ih]

theorem find_eq (p : Path) : t'.find p = t.find p := by
  have hlocate : t'.locate p = t.locate p := by
    rw [locate, locate, h.workingDir, h.walk_eq ht]
  simp only [find, hlocate, h.get?_eq ht]

theorem contractFilesBelow_eq :
    ∀ (fuel : Nat) (p : Path) (m : Location),
      t'.contractFilesBelow fuel p m = t.contractFilesBelow fuel p m := by
  intro fuel
  induction fuel with
  | zero => exact fun _ _ => rfl
  | succ fuel ih =>
    intro p m
    simp only [contractFilesBelow, ih, h.children_eq ht]

/-- **The order in which directories are listed does not matter** for the documents found. -/
theorem contractFiles_eq (p : Path) : t'.contractFiles p = t.contractFiles p := by
  simp only [contractFiles, h.find_eq ht, h.records.length_eq, h.contractFilesBelow_eq ht]

/-- **The order in which directories are listed does not matter** for what is loaded. -/
theorem load_eq (p : Path) : LoadedContracts.load t' p = LoadedContracts.load t p := by
  have hfile (q : Path) : LoadedContracts.ofFile t' q = LoadedContracts.ofFile t q := by
    simp only [LoadedContracts.ofFile, readText, h.find_eq ht]
  have hfiles (paths : List Path) :
      LoadedContracts.ofFiles t' paths = LoadedContracts.ofFiles t paths := by
    induction paths with
    | nil => rfl
    | cons q rest ih => rw [LoadedContracts.ofFiles, LoadedContracts.ofFiles, hfile, ih]
  simp only [LoadedContracts.load, h.contractFiles_eq ht, hfiles]

end Relisted

/-! ## One file changed -/

/-- The other tree differs in what stands at one location, which is a directory in neither. -/
structure ChangesAt (t : FileTree) (m : Location) (t' : FileTree) : Prop where
  workingDir : t'.workingDir = t.workingDir
  entry : ∀ k ≠ m, t'.get? k = t.get? k
  noDirectory : t.get? m ≠ some .directory
  noDirectory' : t'.get? m ≠ some .directory

theorem changesAt_put {m : Location} {content : FileContent} (hm : t.get? m ≠ some .directory) :
    t.ChangesAt m (t.put m (.file content)) where
  workingDir := rfl
  entry k hk := get?_put_of_ne hk.symm t _
  noDirectory := hm
  noDirectory' := by
    have hroot : m ≠ [] := by
      rintro rfl
      exact hm rfl
    rw [get?_put_self hroot]
    exact nofun

/-- Nothing stands below a file, so removing it changes nothing else. -/
theorem changesAt_removeBelow (ht : t.WellFormed) {m : Location} {content : FileContent}
    (hm : t.get? m = some (.file content)) : t.ChangesAt m (t.removeBelow m) where
  workingDir := rfl
  entry k hk := by
    by_cases hroot : k = []
    · subst hroot
      rfl
    · refine Option.ext fun e => ?_
      rw [(ht.removeBelow m).get?_eq_some_iff hroot, ht.get?_eq_some_iff hroot]
      simp only [mem_removeBelow, and_assoc]
      refine exists_congr fun r => and_congr_right fun hr => ⟨And.right, fun h => ⟨?_, h⟩⟩
      rintro ⟨back, hback⟩
      have hne : back ≠ [] := by
        rintro rfl
        exact hk (by rw [← h.1, ← hback, List.append_nil])
      have hentry : t.get? (m ++ back) = some e :=
        (ht.get?_eq_some_iff (by rwa [hback, h.1])).2 ⟨r, hr, hback.symm, h.2⟩
      have hdirectory := ht.isDirectory hne hentry
      rw [hm] at hdirectory
      cases hdirectory
  noDirectory := by
    rw [hm]
    exact nofun
  noDirectory' := by
    have hroot : m ≠ [] := by
      rintro rfl
      cases hm
    rw [ht.get?_removeBelow_self hroot]
    exact nofun

namespace ChangesAt

variable {m : Location}

theorem directory_iff (h : t.ChangesAt m t') (k : Location) :
    t'.get? k = some .directory ↔ t.get? k = some .directory := by
  by_cases hk : k = m
  · subst hk
    exact iff_of_false h.noDirectory' h.noDirectory
  · rw [h.entry k hk]

theorem find_eq (h : t.ChangesAt m t') (hdir : t.find dir = .ok (l, .directory)) :
    t'.find dir = .ok (l, .directory) := by
  obtain ⟨hlocate, hentry⟩ := locate_of_find hdir
  have hgrows : t.GrowsTo t' := ⟨h.workingDir, fun k => (h.directory_iff k).2⟩
  have hentry' : t'.get? l = some .directory := (h.directory_iff l).2 hentry
  simp only [find, locate_of_growsTo hgrows hlocate, hentry']

theorem fits_iff (h : t.ChangesAt m t') : t'.Fits dir l ↔ t.Fits dir l := by
  simp only [Fits, h.directory_iff]

theorem isContractDocument_iff (h : t.ChangesAt (l ++ names) t') {d : Document}
    (hd : d.names ≠ names) : t'.IsContractDocument l d ↔ t.IsContractDocument l d := by
  have hentry : t'.get? (l ++ d.names) = t.get? (l ++ d.names) :=
    h.entry _ fun heq => hd (List.append_cancel_left heq)
  exact ⟨fun hdoc => ⟨hentry ▸ hdoc.entry, hdoc.extension⟩,
    fun hdoc => ⟨hentry ▸ hdoc.entry, hdoc.extension⟩⟩

/-- Documents elsewhere are the same in both trees, and stand in the same order. -/
theorem filter_eq (h : t.ChangesAt (l ++ names) t') (ht : t.WellFormed)
    (ht' : t'.WellFormed) {p : Document → Bool} (hp : ∀ d, p d = true → d.names ≠ names) :
    (t'.documents l).filter p = (t.documents l).filter p := by
  refine ((documents_pairwise ht' l).filter p).eq_of_mem_iff ((documents_pairwise ht l).filter p)
    fun d => ?_
  rw [List.mem_filter, List.mem_filter, mem_documents_iff ht', mem_documents_iff ht]
  exact and_congr_left fun hd => h.isContractDocument_iff (hp d hd)

/-- **A change of one file leaves the other documents where they are.** -/
theorem documents_eq (h : t.ChangesAt (l ++ names) t') (ht : t.WellFormed)
    (ht' : t'.WellFormed) :
    ∃ before own own' after, t.documents l = before ++ own ++ after ∧
      t'.documents l = before ++ own' ++ after ∧
      (∀ d, d ∈ own ↔ d.names = names ∧ t.IsContractDocument l d) ∧
      ∀ d, d ∈ own' ↔ d.names = names ∧ t'.IsContractDocument l d := by
  have hsplit' := documents_eq_append ht' l names
  rw [h.filter_eq ht ht' (p := fun d => decide (d.names < names)) ?_,
    h.filter_eq ht ht' (p := fun d => decide (names < d.names)) ?_] at hsplit'
  · refine ⟨_, _, _, _, documents_eq_append ht l names, hsplit', fun d => ?_, fun d => ?_⟩
    · rw [List.mem_filter, mem_documents_iff ht, decide_eq_true_eq, and_comm]
    · rw [List.mem_filter, mem_documents_iff ht', decide_eq_true_eq, and_comm]
  · exact fun d hd => ne_of_gt (of_decide_eq_true hd)
  · exact fun d hd => ne_of_lt (of_decide_eq_true hd)

end ChangesAt

/-- **Once a file is removed, the others are loaded as they were**, in the order that they had. -/
theorem load_removeBelow (ht : t.WellFormed) (hdir : t.find dir = .ok (l, .directory))
    (hfits : t.Fits dir l) {content : FileContent} (hfile : t.get? (l ++ names) = some (.file content)) :
    LoadedContracts.load (t.removeBelow (l ++ names)) dir =
      .ok (.ofDocuments dir ((t.documents l).filter fun d => decide (d.names ≠ names))) := by
  have hchange := changesAt_removeBelow ht hfile
  have ht' := ht.removeBelow (l ++ names)
  have hgone : ∀ d ∈ (t.removeBelow (l ++ names)).documents l, d.names ≠ names := by
    rintro d hd rfl
    have hentry := ((mem_documents_iff ht').1 hd).entry
    have hroot : l ++ d.names ≠ [] := fun hnil => by
      rw [hnil] at hfile
      cases hfile
    rw [ht.get?_removeBelow_self hroot] at hentry
    cases hentry
  have hkept := hchange.filter_eq ht ht' (p := fun d => decide (d.names ≠ names)) fun d hd =>
    of_decide_eq_true hd
  rw [load_eq ht' (hchange.find_eq hdir) (hchange.fits_iff.2 hfits), ← hkept,
    List.filter_eq_self.2 fun d hd => decide_eq_true (hgone d hd)]

end FileTree

/-! ## Registration -/

section

open LoadedContracts

variable {t : FileTree} {dir : Path} {l : Location}

/-- **Contracts are registered in the order of the paths of their documents.** The contract documents
below a directory are found in the order of their paths, each once, in whatever order directories are
listed, unless a directory cannot be opened, which ends the search. They register their valid entries
and fail with the others, document by document and entry by entry. A change of one file leaves what
the others come to, and its order, as it is. -/
theorem load_in_path_order (ht : t.WellFormed) (hdir : t.find dir = .ok (l, .directory)) :
    (¬t.Fits dir l →
      ∃ names, t.get? (l ++ names) = some .directory ∧
        maxPathBytes < (dir.below names).text.utf8ByteSize ∧
        t.contractFiles dir = .error (.unreadableEntry (dir.below names).text .nameTooLong) ∧
        load t dir = .error (.unreadableEntry (dir.below names).text .nameTooLong)) ∧
    (t.Fits dir l →
      ∃ docs : List Document,
        (∀ d, d ∈ docs ↔ t.IsContractDocument l d) ∧
        (docs.map (Document.pathBelow dir)).Pairwise Path.Before ∧
        (docs.map (Document.pathBelow dir)).Nodup ∧
        t.contractFiles dir = .ok (docs.map (Document.pathBelow dir)) ∧
        load t dir = .ok (ofDocuments dir docs) ∧
        (∀ t', t.Relisted t' → t'.contractFiles dir = t.contractFiles dir ∧
          load t' dir = load t dir) ∧
        ∀ t' names, t'.WellFormed → t.ChangesAt (l ++ names) t' →
          ∃ before own own' after, docs = before ++ own ++ after ∧
            load t' dir = .ok (ofDocuments dir (before ++ own' ++ after)) ∧
            (∀ d, d ∈ own ↔ d.names = names ∧ t.IsContractDocument l d) ∧
            ∀ d, d ∈ own' ↔ d.names = names ∧ t'.IsContractDocument l d) := by
  constructor
  · intro hfits
    obtain ⟨names, hentry, hlong, hfiles⟩ := contractFiles_eq_error ht hdir hfits
    exact ⟨names, hentry, hlong, hfiles, by rw [load, hfiles]⟩
  · intro hfits
    have hsorted := pathBelow_pairwise ht dir l
    refine ⟨t.documents l, fun d => mem_documents_iff ht, hsorted, hsorted.nodup,
      contractFiles_eq ht hdir hfits, load_eq ht hdir hfits,
      fun t' h => ⟨h.contractFiles_eq ht dir, h.load_eq ht dir⟩, fun t' names ht' h => ?_⟩
    obtain ⟨before, own, own', after, hdocs, hdocs', hown, hown'⟩ := h.documents_eq ht ht'
    refine ⟨before, own, own', after, hdocs, ?_, hown, hown'⟩
    rw [load_eq ht' (h.find_eq hdir) (h.fits_iff.2 hfits), hdocs']

/-- A directory whose name begins the name of a file beside it, and a document without contracts. -/
def shelf : FileTree :=
  let contract (name : String) : FileEntry :=
    .file (.text ("contractName: " ++ name ++ "\ncontrollerName: " ++ name ++ "\nfields: []\n"))
  (((((FileTree.empty []).put ["contracts"] .directory).put ["contracts", "b.yml"]
    (.file (.text "fields: []\n"))).put ["contracts", "a.json"] (contract "Middle")).put
    ["contracts", "a"] .directory).put ["contracts", "a", "z.yml"] (contract "First")

/-- What is in the directory comes before the file, though the path of the file is the smaller text;
and once the last document is mended, what the others come to stays in front of it. -/
theorem load_in_path_order_shelf :
    let dir : Path := ⟨"contracts"⟩
    let place : Location := ["contracts"]
    let files : List Path := [⟨"contracts/a/z.yml"⟩, ⟨"contracts/a.json"⟩, ⟨"contracts/b.yml"⟩]
    let mended := shelf.put ["contracts", "b.yml"]
      (.file (.text "contractName: Last\ncontrollerName: Last\nfields: []\n"))
    (shelf.WellFormed ∧ shelf.find dir = .ok (place, .directory)) ∧
      shelf.contractFiles dir = .ok files ∧ files.Pairwise Path.Before ∧
      ∃ before own own' after,
        load shelf dir = .ok (ofDocuments dir (before ++ own ++ after)) ∧
        load mended dir = .ok (ofDocuments dir (before ++ own' ++ after)) ∧
        (∀ d ∈ own, d.names = ["b.yml"]) ∧ ∀ d ∈ own', d.names = ["b.yml"] := by
  intro dir place files mended
  have hshelf : shelf.WellFormed := by decide +kernel
  have hplace : shelf.CanHold ["contracts", "b.yml"] :=
    ⟨by decide, by decide +kernel, by decide +kernel⟩
  have hmended : mended.WellFormed := hshelf.put hplace (.inr (by decide +kernel))
  have hdir : shelf.find dir = .ok (place, .directory) := by decide +kernel
  have hfits : shelf.Fits dir place := fits_of_records hshelf (by decide) (by decide +kernel)
  have hfiles : shelf.contractFiles dir = .ok files := by
    rw [contractFiles_eq hshelf hdir hfits, documents_eq_insertionSort hshelf]
    decide +kernel
  obtain ⟨docs, -, hsorted, -, hfound, hloaded, -, hchange⟩ :=
    (load_in_path_order hshelf hdir).2 hfits
  rw [hfound, Except.ok.injEq] at hfiles
  have hput : shelf.ChangesAt (place ++ ["b.yml"]) mended := changesAt_put (by decide +kernel)
  obtain ⟨before, own, own', after, hdocs, hloaded', hown, hown'⟩ := hchange mended _ hmended hput
  refine ⟨⟨hshelf, hdir⟩, by rw [hfound, hfiles], by rwa [hfiles] at hsorted,
    before, own, own', after, by rw [hloaded, hdocs], hloaded', fun d hd => ((hown d).1 hd).1,
    fun d hd => ((hown' d).1 hd).1⟩

end

end ContractCompiler
