import ContractCompiler.Proofs.Files.Tree
import ContractCompiler.Proofs.Files.WellFormed

/-!
# Operations on well-formed file trees

Every operation leaves a well-formed tree well-formed, however it ends. An entry is only ever put where
a directory can hold it: a path leads to a directory or to a name in one, and the names of a path that
can be opened are names of files, as far as they are short enough.

* `WellFormed.put` — putting an entry where a directory can hold it.
* `WellFormed.reaches_of_walk` — a walk leads to a directory or to a place in one.
* `makeDirectories_grounded`, `writeArtifact_grounded` — making directories and writing artifacts.
* `WellFormed.removeBelow` — removing what is below a location.
-/

namespace ContractCompiler

namespace FileTree

/-- There is a directory for an entry at the location, and it can hold the name. -/
structure CanHold (t : FileTree) (l : Location) : Prop where
  proper : l ≠ []
  directory : t.get? l.dropLast = some .directory
  names : ∀ n ∈ l, IsFileName n

/-- The tree is well-formed, and its working directory is there. -/
structure Grounded (t : FileTree) : Prop extends WellFormed t where
  workingDir : t.get? t.workingDir = some .directory

variable {t t' : FileTree} {l m dir : Location} {p : Path} {e : FileEntry} {n : String}

/-! ## Putting an entry -/

theorem eq_or_mem_of_mem_putEntry {depth : Nat} {records : List FileRecord} {r : FileRecord}
    (h : r ∈ putEntry depth l e records) : r = ⟨l, depth, e⟩ ∨ r ∈ records := by
  induction records with
  | nil => exact .inl (List.mem_singleton.1 h)
  | cons s rest ih =>
    unfold putEntry at h
    split at h
    · exact (List.mem_cons.1 h).imp_right (List.mem_cons_of_mem s)
    · rcases List.mem_cons.1 h with rfl | h
      · exact .inr List.mem_cons_self
      · exact (ih h).imp_right (List.mem_cons_of_mem s)

theorem nodup_locations_putEntry {records : List FileRecord}
    (hdepth : ∀ r ∈ records, r.depth = r.location.length)
    (hdistinct : (records.map FileRecord.location).Nodup) :
    ((putEntry l.length l e records).map FileRecord.location).Nodup := by
  induction records with
  | nil => exact List.nodup_singleton l
  | cons s rest ih =>
    obtain ⟨hs, hrest⟩ := List.forall_mem_cons.1 hdepth
    obtain ⟨hnew, hothers⟩ := List.nodup_cons.1 hdistinct
    unfold putEntry
    split
    · rename_i heq
      rwa [List.map_cons, ← heq.2]
    · rename_i hne
      -- A record that stands elsewhere keeps its location from the new one.
      have hsl : s.location ≠ l := fun heq => hne ⟨by rw [hs, heq], heq⟩
      refine List.nodup_cons.2 ⟨fun hmem => ?_, ih hrest hothers⟩
      obtain ⟨r, hr, heq⟩ := List.mem_map.1 hmem
      rcases eq_or_mem_of_mem_putEntry hr with rfl | hr
      · exact hsl heq.symm
      · exact hnew (List.mem_map.2 ⟨r, hr, heq⟩)

/-- **An entry can be put where a directory can hold it**, unless it is a file in the place of a
directory. -/
theorem WellFormed.put (ht : t.WellFormed) (hl : t.CanHold l)
    (he : e = .directory ∨ t.get? l ≠ some .directory) : (t.put l e).WellFormed := by
  have hkept {k : Location} (hk : t.get? k = some .directory) :
      (t.put l e).get? k = some .directory := by
    by_cases hlk : l = k
    · subst hlk
      rw [get?_put_self hl.proper, he.resolve_right fun hne => hne hk]
    · rw [get?_put_of_ne hlk, hk]
  constructor
  case distinct => exact nodup_locations_putEntry ht.depth ht.distinct
  all_goals
    intro r hr
    rcases eq_or_mem_of_mem_putEntry hr with rfl | hr
  case depth.inl => rfl
  case depth.inr => exact ht.depth r hr
  case proper.inl => exact hl.proper
  case proper.inr => exact ht.proper r hr
  case names.inl => exact hl.names
  case names.inr => exact ht.names r hr
  case closed.inl => exact hkept hl.directory
  case closed.inr => exact hkept (ht.closed r hr)

theorem mem_removeBelow {r : FileRecord} :
    r ∈ (t.removeBelow l).records ↔ r ∈ t.records ∧ ¬l <+: r.location := by
  rw [FileTree.removeBelow, List.mem_filter, Bool.not_eq_true', ← List.isPrefixOf_iff_prefix,
    Bool.not_eq_true]

/-- What is left when everything below a location is removed has its directories still. -/
theorem WellFormed.removeBelow (ht : t.WellFormed) (l : Location) : (t.removeBelow l).WellFormed := by
  have hdepth : ∀ r ∈ (t.removeBelow l).records, r.depth = r.location.length := fun r hr =>
    ht.depth r (mem_removeBelow.1 hr).1
  have hdistinct : ((t.removeBelow l).records.map FileRecord.location).Nodup :=
    ht.distinct.sublist (List.filter_sublist.map _)
  refine ⟨hdepth, hdistinct, fun r hr => ht.proper r (mem_removeBelow.1 hr).1,
    fun r hr => ht.names r (mem_removeBelow.1 hr).1, fun r hr => ?_⟩
  obtain ⟨hmem, hoff⟩ := mem_removeBelow.1 hr
  by_cases hroot : r.location.dropLast = []
  · rw [hroot]
    rfl
  · -- The directory of what is left is not below the location either, since what is in it is not.
    obtain ⟨s, hs, hlocation, hentry⟩ := (ht.get?_eq_some_iff hroot).1 (ht.closed r hmem)
    have hoff' : ¬l <+: s.location := fun hbelow =>
      hoff (hbelow.trans (hlocation ▸ List.dropLast_prefix r.location))
    rw [get?, if_neg hroot, entryAt_eq_some_iff hdepth hdistinct]
    exact ⟨s, mem_removeBelow.2 ⟨hs, hoff'⟩, hlocation, hentry⟩

theorem WellFormed.get?_removeBelow_self (ht : t.WellFormed) (hl : l ≠ []) :
    (t.removeBelow l).get? l = none := by
  refine Option.eq_none_iff_forall_ne_some.2 fun e h => ?_
  obtain ⟨r, hr, hlocation, -⟩ := ((ht.removeBelow l).get?_eq_some_iff hl).1 h
  exact (mem_removeBelow.1 hr).2 (hlocation ▸ List.prefix_rfl)

/-! ## Names of a path -/

/-- The names among the components that are short enough are names of files. -/
def NamesFiles (cs : List PathComponent) : Prop :=
  ∀ n, .name n ∈ cs → n.utf8ByteSize ≤ maxNameBytes → IsFileName n

/-- The path is written without the null character. -/
def NullFree (p : Path) : Prop := ∀ c ∈ p.text.toList, c.toNat ≠ 0

theorem NamesFiles.tail {c : PathComponent} {rest : List PathComponent} (h : NamesFiles (c :: rest)) :
    NamesFiles rest := fun n hn => h n (List.mem_cons_of_mem c hn)

theorem mem_of_mem_pieces {piece : List Char} {ch : Char} (cs : List Char) :
    ∀ {done : List Char}, piece ∈ Path.pieces done cs → ch ∈ piece → ch ∈ done ∨ ch ∈ cs := by
  induction cs with
  | nil =>
    intro done h hch
    rw [Path.pieces, List.mem_singleton] at h
    subst h
    exact .inl (List.mem_reverse.1 hch)
  | cons c rest ih =>
    intro done h hch
    unfold Path.pieces at h
    split at h
    · rcases List.mem_cons.1 h with rfl | h
      · exact .inl (List.mem_reverse.1 hch)
      · exact (ih h hch).elim (fun hnil => absurd hnil List.not_mem_nil)
          fun hrest => .inr (List.mem_cons_of_mem c hrest)
    · rcases ih h hch with hdone | hrest
      · rcases List.mem_cons.1 hdone with rfl | hdone
        · exact .inr List.mem_cons_self
        · exact .inl hdone
      · exact .inr (List.mem_cons_of_mem c hrest)

/-- A name is written with characters of the text that it is a step of. -/
theorem mem_of_mem_steps {text : String} {ch : Char} (hn : .name n ∈ Path.steps text)
    (hch : ch ∈ n.toList) : ch ∈ text.toList := by
  obtain ⟨piece, hpiece, hname⟩ := List.mem_map.1 hn
  have hn' : n.toList = piece := by
    unfold Path.componentOf at hname
    split at hname
    · cases hname
    · rw [← PathComponent.name.inj hname, String.toList_ofList]
  rw [hn'] at hch
  exact (mem_of_mem_pieces _ (List.mem_filter.1 hpiece).1 hch).resolve_left List.not_mem_nil

theorem name_mem_steps (h : .name n ∈ p.components) : .name n ∈ Path.steps p.text := by
  rw [Path.components_eq, List.mem_append] at h
  refine h.resolve_left fun hopening => ?_
  unfold Path.opening at hopening
  split at hopening
  · cases List.mem_singleton.1 hopening
  · split at hopening
    · cases List.mem_singleton.1 hopening
    · cases hopening

/-- **The names of a path are names of files**, as far as they are short enough. -/
theorem NullFree.namesFiles (hp : NullFree p) : NamesFiles p.components := fun _ hn hshort =>
  have hstep := name_mem_steps hn
  ⟨Path.isStep_of_mem_steps hstep, fun c hc => hp c (mem_of_mem_steps hstep hc), hshort⟩

theorem nullFree_of_locate {r : Except FileError Location} (h : t.locate p = r)
    (hr : r ≠ .error .invalidPath) : NullFree p := by
  subst h
  unfold locate at hr
  split at hr
  · exact absurd rfl hr
  · rename_i hnull
    intro c hc heq
    exact hnull (List.any_eq_true.2 ⟨c, hc, by rw [heq]; rfl⟩)

theorem trimEnd_suffix (cs : List Char) : Path.trimEnd cs <:+ cs := by
  induction cs using Path.trimEnd.induct with
  | case1 rest ih =>
    rw [Path.trimEnd]
    exact ih.trans (List.suffix_cons _ _)
  | case2 rest ih =>
    rw [Path.trimEnd]
    exact ih.trans ((List.suffix_cons _ _).trans (List.suffix_cons _ _))
  | case3 => exact List.nil_suffix
  | case4 cs hslash hhere hdot => exact ⟨[], Path.trimEnd.eq_4 cs hslash hhere hdot⟩

theorem NullFree.parent {q : Path} (hp : NullFree p) (h : p.parent? = some q) : NullFree q := by
  have hlead (cs : List Char) : ∀ c ∈ Path.lead cs, c.toNat ≠ 0 := by
    intro c hc
    unfold Path.lead at hc
    split at hc
    · rw [List.mem_singleton.1 hc]; decide
    · rw [List.mem_singleton.1 hc]; decide
    · rw [List.mem_singleton.1 hc]; decide
    · cases hc
  unfold Path.parent? at h
  dsimp only at h
  split at h
  · split at h
    · obtain rfl := Option.some.inj h
      exact fun c hc => by cases hc
    · cases h
  · rename_i c cs htrim
    obtain rfl := Option.some.inj h
    intro d hd
    rw [String.toList_ofList, List.mem_append, List.mem_reverse] at hd
    rcases hd with hd | hd
    · exact hlead _ d hd
    · have hdrop : d ∈ c :: cs :=
        (List.dropWhile_suffix _).subset ((trimEnd_suffix _).subset hd)
      rw [← htrim] at hdrop
      have hreverse := (trimEnd_suffix _).subset hdrop
      rw [List.mem_reverse] at hreverse
      exact hp d (List.mem_of_mem_drop hreverse)

/-! ## Walking -/

/-- A walk can lead to the location: to a directory, or to a place in one. -/
def Reaches (t : FileTree) (l : Location) : Prop := t.get? l = some .directory ∨ t.CanHold l

theorem WellFormed.canHold_append (ht : t.WellFormed) (hdir : t.get? dir = some .directory)
    (hn : IsFileName n) : t.CanHold (dir ++ [n]) where
  proper := List.append_ne_nil_of_right_ne_nil dir (List.cons_ne_nil n [])
  directory := by rwa [List.dropLast_concat]
  names m hm := by
    rcases List.mem_append.1 hm with hm | hm
    · exact ht.isFileName hdir m hm
    · rwa [List.mem_singleton.1 hm]

/-- **A walk leads to a directory or to a place in one.** -/
theorem WellFormed.reaches_of_walk (ht : t.WellFormed) {cs : List PathComponent} :
    ∀ {l : Location}, NamesFiles cs → t.Reaches l → t.walk l cs = .ok m → t.Reaches m := by
  induction cs with
  | nil =>
    intro l _ hl h
    obtain rfl := Except.ok.inj h
    exact hl
  | cons c rest ih =>
    intro l hcs hl h
    unfold walk at h
    split at h
    · cases h
    · cases h
    · rename_i hdir
      cases c with
      | root => exact ih hcs.tail (.inl rfl) h
      | here => exact ih hcs.tail hl h
      | up => exact ih hcs.tail (.inl (ht.get?_dropLast hdir)) h
      | name n =>
        by_cases hlength : maxNameBytes < n.utf8ByteSize
        · simp only [hlength, if_true] at h
          cases h
        · simp only [hlength, if_false] at h
          have hn : IsFileName n := hcs n List.mem_cons_self (Nat.not_lt.1 hlength)
          exact ih hcs.tail (.inr (ht.canHold_append hdir hn)) h

theorem Grounded.reaches_of_locate (ht : t.Grounded) (h : t.locate p = .ok l) : t.Reaches l :=
  ht.reaches_of_walk (nullFree_of_locate h nofun).namesFiles (.inl ht.workingDir) (walk_of_locate h)

/-- Where no directory stands, one can hold what is put there. -/
theorem Grounded.canHold_of_locate (ht : t.Grounded) (h : t.locate p = .ok l)
    (hentry : t.get? l ≠ some .directory) : t.CanHold l :=
  (ht.reaches_of_locate h).resolve_left hentry

/-! ## Making directories -/

theorem Grounded.of_growsTo (ht : t.Grounded) (h : t.GrowsTo t') (h' : t'.WellFormed) :
    t'.Grounded where
  toWellFormed := h'
  workingDir := by
    rw [h.workingDir]
    exact h.directory _ ht.workingDir

theorem makeDirectory_grounded (ht : t.Grounded) (p : Path) : (t.makeDirectory p).2.Grounded := by
  refine ht.of_growsTo (gainsDirectories_makeDirectory t p).toGrowsTo ?_
  unfold makeDirectory
  split
  · exact ht.toWellFormed
  · rename_i hlocate
    split
    · exact ht.toWellFormed
    · rename_i hentry
      split
      · exact ht.toWellFormed
      · have hl : t.CanHold _ := ht.canHold_of_locate hlocate (by rw [hentry]; exact nofun)
        exact ht.put hl (.inl rfl)

/-- Making a way goes from directory to directory, those included that it makes. -/
theorem makeWay_wellFormed {cs : List PathComponent} :
    ∀ {t : FileTree} {l : Location}, t.WellFormed → NamesFiles cs → t.get? l = some .directory →
      (t.makeWay l cs).2.WellFormed := by
  induction cs with
  | nil => exact fun ht _ _ => ht
  | cons c rest ih =>
    intro t l ht hcs hl
    cases c with
    | root => exact ih ht hcs.tail rfl
    | here => exact ih ht hcs.tail hl
    | up => exact ih ht hcs.tail (ht.get?_dropLast hl)
    | name n =>
      simp only [makeWay]
      split
      · exact ht
      · rename_i hlength
        split
        · rename_i hdirectory
          exact ih ht hcs.tail hdirectory
        · exact ht
        · have hplace : t.CanHold (l ++ [n]) :=
            ht.canHold_append hl (hcs n List.mem_cons_self (Nat.not_lt.1 hlength))
          exact ih (ht.put hplace (.inl rfl)) hcs.tail (get?_put_self hplace.proper t _)

theorem ensureDirectory_grounded (ht : t.Grounded) (p : Path) :
    (t.ensureDirectory p).2.Grounded := by
  rw [snd_ensureDirectory]
  exact makeDirectory_grounded ht p

/-- A directory is only not found by a path that can be opened. -/
theorem nullFree_of_ensureDirectory (h : (t.ensureDirectory p).1 = .error .notFound) : NullFree p := by
  by_contra hnull
  have hlocate : t.locate p = .error .invalidPath := by
    by_contra hne
    exact hnull (nullFree_of_locate rfl hne)
  simp [ensureDirectory, makeDirectory, isDirectory, find, hlocate] at h

/-- **Making directories leaves the tree well-formed.** -/
theorem makeDirectories_grounded (ht : t.Grounded) (p : Path) :
    (t.makeDirectories p).2.Grounded := by
  have hensure := ensureDirectory_grounded ht p
  unfold makeDirectories
  split
  · rename_i t₁ h
    have hp : NullFree p := nullFree_of_ensureDirectory (by rw [h])
    rw [h] at hensure
    split
    · exact hensure
    · rename_i parent hparent
      have hnames := (hp.parent hparent).namesFiles
      have hway : (t₁.makeWay t₁.workingDir parent.components).2.Grounded :=
        hensure.of_growsTo (gainsDirectories_makeWay parent.components t₁ _).toGrowsTo
          (makeWay_wellFormed hensure.toWellFormed hnames hensure.workingDir)
      split
      · rename_i hw
        rwa [hw] at hway
      · rename_i t₂ hw
        rw [hw] at hway
        exact ensureDirectory_grounded hway p
  · exact hensure

theorem makeParent_grounded (ht : t.Grounded) (p : Path) : (t.makeParent p).2.Grounded := by
  unfold makeParent
  split
  · exact ht
  · split
    · exact ht
    · exact makeDirectories_grounded ht _

/-! ## Writing files -/

theorem writeFile_grounded (ht : t.Grounded) (p : Path) (content : String) :
    (t.writeFile p (.text content)).2.Grounded := by
  have hgrows : t.GrowsTo (t.writeFile p (.text content)).2 := by
    rcases writeFile_cases t p content with ⟨e, h⟩ | ⟨t', h, hwrote⟩
    · rw [h]
      exact .refl t
    · rw [h]
      exact hwrote.toGrowsTo
  refine ht.of_growsTo hgrows ?_
  unfold writeFile
  split
  · exact ht.toWellFormed
  · rename_i hlocate
    split
    · exact ht.toWellFormed
    · rename_i hentry
      split
      · exact ht.toWellFormed
      · exact ht.put (ht.canHold_of_locate hlocate hentry) (.inr hentry)

/-- **Writing an artifact leaves the tree well-formed**, however it ends. -/
theorem writeArtifact_grounded (ht : t.Grounded) (p : Path) (content : String) :
    (t.writeArtifact p content).2.Grounded := by
  have hparent := makeParent_grounded ht p
  unfold writeArtifact
  split
  · exact ht
  · split
    · rename_i h
      rwa [h] at hparent
    · rename_i t₁ h
      rw [h] at hparent
      have hwrite := writeFile_grounded hparent p content
      split
      · rename_i hw
        rwa [hw] at hwrite
      · rename_i hw
        rwa [hw] at hwrite

end FileTree

end ContractCompiler
