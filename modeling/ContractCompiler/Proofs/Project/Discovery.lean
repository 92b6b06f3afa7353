import Mathlib.Data.List.TakeWhile
import ContractCompiler.Project.Basic
import ContractCompiler.Proofs.Files.WellFormed
import ContractCompiler.Proofs.Layout.Order

/-!
# Finding contract documents

The contract documents below a directory are found by a walk that takes the entries of each directory
in the order of their names and enters a directory where it meets it. The names on the way to a
document are all that the walk decides by, so `documentsBelow` walks over names alone; paths, and
directories whose path is too long to be opened, come in afterwards.

* `isContractFile_iff` — a document is told by what stands behind the last point of its name.
* `mem_documentsBelow_iff` — the walk comes to every document, and to nothing else.
* `documentsBelow_pairwise` — it comes to them in the order of the names on the way, to each once.
* `contractFilesBelow_eq` — the documents found are those, as long as every directory can be opened.
* `contractFilesBelow_eq_error` — one that cannot be opened ends the search.
-/

namespace ContractCompiler

/-! ## Extensions -/

theorem Path.fileExtension?_append {stem e : String} (hstem : stem ≠ "") (he : '.' ∉ e.toList) :
    Path.fileExtension? (stem ++ "." ++ e) = some e := by
  have hreverse : (stem ++ "." ++ e).toList.reverse =
      e.toList.reverse ++ '.' :: stem.toList.reverse := by
    rw [String.toList_append, String.toList_append, show ".".toList = ['.'] from rfl]
    simp
  have hplain : ∀ c ∈ e.toList.reverse, (c != '.') = true := by
    intro c hc
    rw [bne_iff_ne]
    rintro rfl
    exact he (List.mem_reverse.1 hc)
  obtain ⟨d, rest, hrest⟩ : ∃ d rest, stem.toList.reverse = d :: rest :=
    List.exists_cons_of_ne_nil (by simpa using hstem)
  unfold fileExtension?
  dsimp only
  rw [hreverse, List.takeWhile_append_of_pos hplain, List.dropWhile_append_of_pos hplain, hrest]
  simp

/-- **An extension is what stands behind the last point of a name**, if anything stands before it. -/
theorem Path.fileExtension?_eq_some_iff {name e : String} :
    Path.fileExtension? name = some e ↔
      '.' ∉ e.toList ∧ ∃ stem, stem ≠ "" ∧ name = stem ++ "." ++ e := by
  constructor
  · intro h
    unfold fileExtension? at h
    dsimp only at h
    split at h
    · cases h
    · cases h
    · rename_i c d rest hdrop
      have he : e.toList = (name.toList.reverse.takeWhile (· != '.')).reverse := by
        rw [← Option.some.inj h, String.toList_ofList]
      have hc : c = '.' := by
        have hnot := List.head?_dropWhile_not (· != '.') name.toList.reverse
        rw [hdrop] at hnot
        simpa using hnot
      refine ⟨fun hmem => ?_, String.ofList (d :: rest).reverse, fun hempty => ?_, ?_⟩
      · rw [he, List.mem_reverse] at hmem
        simpa using List.mem_takeWhile_imp hmem
      · have hnil := congrArg String.toList hempty
        simp at hnil
      · refine String.toList_inj.1 ?_
        have hsplit := List.takeWhile_append_dropWhile (p := (· != '.')) (l := name.toList.reverse)
        rw [hdrop, hc] at hsplit
        calc name.toList
            = (name.toList.reverse.takeWhile (· != '.') ++ '.' :: d :: rest).reverse := by
              rw [hsplit, List.reverse_reverse]
          _ = (String.ofList (d :: rest).reverse ++ "." ++ e).toList := by
              rw [String.toList_append, String.toList_append, String.toList_ofList, he,
                show ".".toList = ['.'] from rfl]
              simp
  · rintro ⟨he, stem, hstem, rfl⟩
    exact fileExtension?_append hstem he

/-- **A contract document is told by its extension.** -/
theorem isContractFile_iff {name : String} :
    isContractFile name = true ↔
      ∃ stem, ∃ e ∈ contractExtensions, stem ≠ "" ∧ name = stem ++ "." ++ e := by
  have hplain : ∀ e ∈ contractExtensions, '.' ∉ e.toList := by decide
  have hany : isContractFile name = true ↔
      ∃ e ∈ contractExtensions, Path.fileExtension? name = some e := by
    rw [isContractFile, Option.any_eq_true]
    simp only [List.contains_iff_mem]
    exact exists_congr fun e => and_comm
  rw [hany]
  constructor
  · rintro ⟨e, he, hextension⟩
    obtain ⟨-, stem, hstem, hname⟩ := Path.fileExtension?_eq_some_iff.1 hextension
    exact ⟨stem, e, he, hstem, hname⟩
  · rintro ⟨stem, e, he, hstem, hname⟩
    exact ⟨e, he, Path.fileExtension?_eq_some_iff.2 ⟨hplain e he, stem, hstem, hname⟩⟩

namespace FileTree

variable {t : FileTree} {l : Location} {dir : Path}

/-! ## The walk over names -/

/-- A file below a directory. -/
structure Document where
  /-- The names on the way to it. -/
  names : List String
  content : FileContent
deriving DecidableEq, Repr

/-- The order of the walk: that of the names on the way. -/
def Document.Before (d d' : Document) : Prop := d.names < d'.names

instance : Std.Irrefl Document.Before := ⟨fun d => lt_irrefl d.names⟩

instance : Std.Antisymm Document.Before := ⟨fun _ _ h h' => absurd h' (lt_asymm h)⟩

/-- The document as seen from the directory that holds the one it is seen from now. -/
def Document.within (n : String) (d : Document) : Document := { d with names := n :: d.names }

/-- The documents that one entry of a directory leads to; `inside` gives those below a directory in
it. -/
def documentsThrough (inside : String → List Document) : String × FileEntry → List Document
  | (n, .directory) => (inside n).map (.within n)
  | (n, .file content) => if isContractFile n then [⟨[n], content⟩] else []

/-- The contract documents below a location, in the order of the walk. -/
def documentsBelow (t : FileTree) : Nat → Location → List Document
  | 0, _ => []
  | fuel + 1, l =>
    (t.children l).flatMap (documentsThrough fun n => t.documentsBelow fuel (l ++ [n]))

/-- The file stands below the location, and its extension is one of contract documents. -/
structure IsContractDocument (t : FileTree) (l : Location) (d : Document) : Prop where
  entry : t.get? (l ++ d.names) = some (.file d.content)
  extension : ∃ front stem, ∃ e ∈ contractExtensions,
    stem ≠ "" ∧ d.names = front ++ [stem ++ "." ++ e]

variable {d : Document}

theorem isContractDocument_iff :
    t.IsContractDocument l d ↔
      t.get? (l ++ d.names) = some (.file d.content) ∧
        ∃ n, d.names.getLast? = some n ∧ isContractFile n = true := by
  constructor
  · rintro ⟨hentry, front, stem, e, he, hstem, hnames⟩
    refine ⟨hentry, stem ++ "." ++ e, ?_, isContractFile_iff.2 ⟨stem, e, he, hstem, rfl⟩⟩
    rw [hnames, List.getLast?_concat]
  · rintro ⟨hentry, n, hlast, hfile⟩
    obtain ⟨front, hnames⟩ := List.getLast?_eq_some_iff.1 hlast
    obtain ⟨stem, e, he, hstem, rfl⟩ := isContractFile_iff.1 hfile
    exact ⟨hentry, front, stem, e, he, hstem, hnames⟩

theorem IsContractDocument.names_ne_nil (h : t.IsContractDocument l d) : d.names ≠ [] := by
  obtain ⟨front, stem, e, -, -, hnames⟩ := h.extension
  rw [hnames]
  exact List.append_ne_nil_of_right_ne_nil _ (List.cons_ne_nil _ _)

theorem isContractDocument_within {n : String} (hd : d.names ≠ []) :
    t.IsContractDocument l (d.within n) ↔ t.IsContractDocument (l ++ [n]) d := by
  obtain ⟨m, rest, hnames⟩ := List.exists_cons_of_ne_nil hd
  rw [isContractDocument_iff, isContractDocument_iff, Document.within, hnames,
    List.getLast?_cons_cons, List.append_assoc, List.singleton_append]

/-- An entry of a directory leads to contract documents only. -/
theorem isContractDocument_of_mem_documentsThrough {inside : String → List Document} {n : String}
    {entry : FileEntry} (hinside : ∀ d ∈ inside n, t.IsContractDocument (l ++ [n]) d)
    (hentry : t.get? (l ++ [n]) = some entry) (hd : d ∈ documentsThrough inside (n, entry)) :
    t.IsContractDocument l d := by
  cases entry with
  | directory =>
    obtain ⟨d, hmem, rfl⟩ := List.mem_map.1 hd
    have hdocument := hinside d hmem
    exact (isContractDocument_within hdocument.names_ne_nil).2 hdocument
  | file content =>
    rw [documentsThrough] at hd
    split at hd
    · rename_i hfile
      obtain rfl := List.mem_singleton.1 hd
      exact isContractDocument_iff.2 ⟨hentry, n, rfl, hfile⟩
    · cases hd

/-- Some entry of a directory leads to each contract document below it. -/
theorem IsContractDocument.exists_mem_documentsThrough (ht : t.WellFormed)
    (h : t.IsContractDocument l d) {inside : String → List Document}
    (hinside : ∀ n d, t.IsContractDocument (l ++ [n]) d → d ∈ inside n) :
    ∃ n entry, t.get? (l ++ [n]) = some entry ∧ d ∈ documentsThrough inside (n, entry) := by
  obtain ⟨hentry, last, hlast, hfile⟩ := isContractDocument_iff.1 h
  obtain ⟨names, content⟩ := d
  cases names with
  | nil => cases hlast
  | cons n rest =>
    cases rest with
    | nil =>
      obtain rfl : n = last := Option.some.inj hlast
      refine ⟨n, .file content, hentry, ?_⟩
      rw [documentsThrough, if_pos hfile]
      exact List.mem_singleton_self _
    | cons m more =>
      have hdirectory : t.get? (l ++ [n]) = some .directory := by
        refine ht.isDirectory (List.cons_ne_nil m more) (e := .file content) ?_
        rwa [List.append_assoc]
      refine ⟨n, .directory, hdirectory, ?_⟩
      have hbelow : t.IsContractDocument (l ++ [n]) ⟨m :: more, content⟩ :=
        (isContractDocument_within (List.cons_ne_nil m more)).1 h
      exact List.mem_map_of_mem (hinside n _ hbelow)

/-- **The walk comes to every contract document, and to nothing else.** -/
theorem mem_documentsBelow_iff (ht : t.WellFormed) :
    ∀ {fuel : Nat} {l : Location} {d : Document}, t.records.length < fuel + l.length →
      (d ∈ t.documentsBelow fuel l ↔ t.IsContractDocument l d) := by
  intro fuel
  induction fuel with
  | zero =>
    intro l d hfuel
    refine ⟨fun h => absurd h List.not_mem_nil, fun h => ?_⟩
    have hle := ht.length_le h.entry
    rw [List.length_append] at hle
    omega
  | succ fuel ih =>
    intro l d hfuel
    have hinside (n : String) (d : Document) :
        d ∈ t.documentsBelow fuel (l ++ [n]) ↔ t.IsContractDocument (l ++ [n]) d := by
      refine ih ?_
      rw [List.length_append, List.length_singleton]
      omega
    rw [documentsBelow, List.mem_flatMap]
    constructor
    · rintro ⟨⟨n, entry⟩, hchild, hd⟩
      exact isContractDocument_of_mem_documentsThrough (fun d => (hinside n d).1)
        (ht.mem_children_iff.1 hchild) hd
    · intro h
      obtain ⟨n, entry, hentry, hd⟩ :=
        h.exists_mem_documentsThrough ht fun n d => (hinside n d).2
      exact ⟨(n, entry), ht.mem_children_iff.2 hentry, hd⟩

theorem exists_cons_of_mem_documentsThrough {inside : String → List Document}
    {child : String × FileEntry} (h : d ∈ documentsThrough inside child) :
    ∃ rest, d.names = child.1 :: rest := by
  obtain ⟨n, entry⟩ := child
  cases entry with
  | directory =>
    obtain ⟨d, -, rfl⟩ := List.mem_map.1 h
    exact ⟨d.names, rfl⟩
  | file =>
    rw [documentsThrough] at h
    split at h
    · obtain rfl := List.mem_singleton.1 h
      exact ⟨[], rfl⟩
    · cases h

/-- **The walk comes to the documents in the order of the names on the way**, to each once: the entries
of a directory have different names, so that what is found through one of them stands before all that
is found through the next, however deep it is. -/
theorem documentsBelow_pairwise (ht : t.WellFormed) :
    ∀ (fuel : Nat) (l : Location), (t.documentsBelow fuel l).Pairwise Document.Before := by
  intro fuel
  induction fuel with
  | zero => exact fun l => .nil
  | succ fuel ih =>
    intro l
    refine List.pairwise_flatMap.2 ⟨fun child _ => ?_, (ht.children_pairwise l).imp ?_⟩
    · obtain ⟨n, entry⟩ := child
      cases entry with
      | directory =>
        exact List.pairwise_map.2 ((ih (l ++ [n])).imp fun h => List.cons_lt_cons_iff.2 (.inr ⟨rfl, h⟩))
      | file =>
        rw [documentsThrough]
        split
        · exact List.pairwise_singleton _ _
        · exact .nil
    · intro a b hab d hd d' hd'
      obtain ⟨rest, hnames⟩ := exists_cons_of_mem_documentsThrough hd
      obtain ⟨rest', hnames'⟩ := exists_cons_of_mem_documentsThrough hd'
      rw [Document.Before, hnames, hnames']
      exact List.cons_lt_cons_iff.2 (.inl hab)

/-! ## Paths -/

/-- The path of a document, by that of the directory that it is seen from. -/
def Document.pathBelow (dir : Path) (d : Document) : Path := dir.below d.names

/-- Every directory below a location can be opened by its path, where a path leads to the location. -/
def Fits (t : FileTree) (dir : Path) (l : Location) : Prop :=
  ∀ names, t.get? (l ++ names) = some .directory →
    (dir.below names).text.utf8ByteSize ≤ maxPathBytes

theorem Fits.inside {n : String} (h : t.Fits dir l) : t.Fits (dir.join n) (l ++ [n]) := by
  intro names hentry
  rw [List.append_assoc] at hentry
  exact h (n :: names) hentry

section

variable {inside : Path → String → Except GeneralError (List Path)} {children : List (String × FileEntry)}

/-- Where every directory among the entries can be searched, what is found is what the entries lead
to. -/
theorem contractFilesAmong_eq {documents : String → List Document}
    (h : ∀ n, (n, .directory) ∈ children →
      inside (dir.join n) n = .ok ((documents n).map (Document.pathBelow (dir.join n)))) :
    contractFilesAmong inside dir children =
      .ok ((children.flatMap (documentsThrough documents)).map (Document.pathBelow dir)) := by
  induction children with
  | nil => rfl
  | cons child rest ih =>
    have hrest := ih fun n hn => h n (List.mem_cons_of_mem _ hn)
    obtain ⟨n, entry⟩ := child
    rw [List.flatMap_cons, List.map_append]
    cases entry with
    | directory =>
      have hfound : ((documents n).map (.within n)).map (Document.pathBelow dir) =
          (documents n).map (Document.pathBelow (dir.join n)) := List.map_map
      simp only [contractFilesAmong, h n List.mem_cons_self, hrest, documentsThrough, hfound]
    | file content =>
      simp only [contractFilesAmong, hrest, documentsThrough]
      split <;> rfl

/-- A directory among the entries that cannot be searched ends the search with its error, or with that
of one before it. -/
theorem exists_error_of_contractFilesAmong {n : String} {e : GeneralError}
    (hn : (n, .directory) ∈ children) (h : inside (dir.join n) n = .error e) :
    ∃ m e', (m, .directory) ∈ children ∧ inside (dir.join m) m = .error e' ∧
      contractFilesAmong inside dir children = .error e' := by
  induction children with
  | nil => cases hn
  | cons child rest ih =>
    obtain ⟨m, entry⟩ := child
    by_cases hfirst : ∃ e', entry = .directory ∧ inside (dir.join m) m = .error e'
    · obtain ⟨e', rfl, he'⟩ := hfirst
      exact ⟨m, e', List.mem_cons_self, he', by simp only [contractFilesAmong, he']⟩
    · have hmem : (n, .directory) ∈ rest := by
        rcases List.mem_cons.1 hn with heq | hmem
        · obtain ⟨rfl, rfl⟩ := Prod.mk.inj heq
          exact absurd ⟨e, rfl, h⟩ hfirst
        · exact hmem
      obtain ⟨m', e', hm', he', hrest⟩ := ih hmem
      refine ⟨m', e', List.mem_cons_of_mem _ hm', he', ?_⟩
      cases entry with
      | directory =>
        cases hm : inside (dir.join m) m with
        | error e'' => exact absurd ⟨e'', rfl, hm⟩ hfirst
        | ok files => simp only [contractFilesAmong, hm, hrest]
      | file content => simp only [contractFilesAmong, hrest]

end

/-- **The documents found are those that the walk comes to**, as long as every directory can be
opened. -/
theorem contractFilesBelow_eq (ht : t.WellFormed) :
    ∀ {fuel : Nat} {dir : Path} {l : Location}, t.get? l = some .directory → t.Fits dir l →
      t.contractFilesBelow fuel dir l =
        .ok ((t.documentsBelow fuel l).map (Document.pathBelow dir)) := by
  intro fuel
  induction fuel with
  | zero => exact fun _ _ => rfl
  | succ fuel ih =>
    intro dir l hl hfits
    have hopen : dir.text.utf8ByteSize ≤ maxPathBytes := hfits [] (by rwa [List.append_nil])
    rw [contractFilesBelow, if_neg (by omega)]
    refine contractFilesAmong_eq fun n hn => ?_
    exact ih (ht.mem_children_iff.1 hn) hfits.inside

/-- Where a directory can be opened, one that cannot stands below one of its entries. -/
theorem exists_child_of_not_fits (ht : t.WellFormed) (hopen : dir.text.utf8ByteSize ≤ maxPathBytes)
    (hfits : ¬t.Fits dir l) :
    ∃ n, t.get? (l ++ [n]) = some .directory ∧ ¬t.Fits (dir.join n) (l ++ [n]) := by
  unfold Fits at hfits
  push Not at hfits
  obtain ⟨names, hentry, hlong⟩ := hfits
  cases names with
  | nil => exact absurd hopen (Nat.not_le.2 hlong)
  | cons n rest =>
    have hchild : t.get? (l ++ [n]) = some .directory := by
      rcases eq_or_ne rest [] with rfl | hrest
      · exact hentry
      · exact ht.isDirectory hrest (by rwa [List.append_assoc])
    refine ⟨n, hchild, fun hbelow => ?_⟩
    have hshort := hbelow rest (by rwa [List.append_assoc])
    exact absurd hlong (Nat.not_lt.2 hshort)

/-- **A directory that cannot be opened ends the search**, with its own error or with that of another
such directory. -/
theorem contractFilesBelow_eq_error (ht : t.WellFormed) :
    ∀ {fuel : Nat} {dir : Path} {l : Location}, t.records.length < fuel + l.length →
      t.get? l = some .directory → ¬t.Fits dir l →
      ∃ names, t.get? (l ++ names) = some .directory ∧
        maxPathBytes < (dir.below names).text.utf8ByteSize ∧
        t.contractFilesBelow fuel dir l =
          .error (.unreadableEntry (dir.below names).text .nameTooLong) := by
  intro fuel
  induction fuel with
  | zero =>
    intro dir l hfuel hl
    have hle := ht.length_le hl
    omega
  | succ fuel ih =>
    intro dir l hfuel hl hfits
    rw [contractFilesBelow]
    split
    · rename_i hlong
      exact ⟨[], by rwa [List.append_nil], hlong, rfl⟩
    · rename_i hopen
      have hinside {n : String} (hn : (n, .directory) ∈ t.children l)
          (hn' : ¬t.Fits (dir.join n) (l ++ [n])) :=
        ih (by rw [List.length_append, List.length_singleton]; omega) (ht.mem_children_iff.1 hn) hn'
      -- the directory that is too long stands below some entry
      obtain ⟨n, hchild, hbelow⟩ := exists_child_of_not_fits ht (Nat.not_lt.1 hopen) hfits
      obtain ⟨_, -, -, herror⟩ := hinside (ht.mem_children_iff.2 hchild) hbelow
      let inside := fun (path : Path) (name : String) => t.contractFilesBelow fuel path (l ++ [name])
      have hfailed : inside (dir.join n) n = .error _ := herror
      obtain ⟨m, e, hm, he, hall⟩ :=
        exists_error_of_contractFilesAmong (ht.mem_children_iff.2 hchild) hfailed
      replace he : t.contractFilesBelow fuel (dir.join m) (l ++ [m]) = .error e := he
      by_cases hfits : t.Fits (dir.join m) (l ++ [m])
      · rw [contractFilesBelow_eq ht (ht.mem_children_iff.1 hm) hfits] at he
        cases he
      · obtain ⟨more, hdirectory, htoo, hresult⟩ := hinside hm hfits
        rw [hresult] at he
        obtain rfl := Except.error.inj he
        rw [List.append_assoc] at hdirectory
        exact ⟨m :: more, hdirectory, htoo, hall⟩

end FileTree

end ContractCompiler
