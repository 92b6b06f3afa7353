import Mathlib.Data.List.Induction
import Mathlib.Data.List.Nodup
import Mathlib.Data.List.Perm.Subperm
import Mathlib.Data.String.Basic
import ContractCompiler.Proofs.Files.Tree
import ContractCompiler.Proofs.Layout.Join

/-!
# Well-formed file trees

In the trees of a file system every location has one record, names are such as directories can hold,
and what stands anywhere stands in a directory.

* `mem_children_iff`, `children_pairwise` — the children of a directory are its entries, each once, by
  their names in ascending order.
* `WellFormed.isDirectory` — every location on the way to an entry is a directory.
* `WellFormed.length_le` — no location is deeper than there are records.
-/

namespace ContractCompiler

namespace FileTree

/-- The name can stand in a directory. -/
structure IsFileName (n : String) : Prop where
  isStep : Path.IsStep (.name n)
  noNull : ∀ c ∈ n.toList, c.toNat ≠ 0
  short : n.utf8ByteSize ≤ maxNameBytes

/-- The tree is one of a file system. -/
structure WellFormed (t : FileTree) : Prop where
  depth : ∀ r ∈ t.records, r.depth = r.location.length
  distinct : (t.records.map FileRecord.location).Nodup
  /-- The root has no record. -/
  proper : ∀ r ∈ t.records, r.location ≠ []
  names : ∀ r ∈ t.records, ∀ n ∈ r.location, IsFileName n
  /-- What stands anywhere stands in a directory. -/
  closed : ∀ r ∈ t.records, t.get? r.location.dropLast = some .directory

instance (n : String) : Decidable (IsFileName n) :=
  decidable_of_iff
    (Path.IsStep (.name n) ∧ n.toList.all (fun c => c.toNat != 0) = true ∧
      n.utf8ByteSize ≤ maxNameBytes)
    ⟨fun ⟨h, h', h''⟩ => ⟨h, by simpa using h', h''⟩,
     fun h => ⟨h.isStep, by simpa using h.noNull, h.short⟩⟩

instance (t : FileTree) : Decidable t.WellFormed :=
  decidable_of_iff
    ((∀ r ∈ t.records, r.depth = r.location.length) ∧ (t.records.map FileRecord.location).Nodup ∧
      (∀ r ∈ t.records, r.location ≠ []) ∧ (∀ r ∈ t.records, ∀ n ∈ r.location, IsFileName n) ∧
      ∀ r ∈ t.records, t.get? r.location.dropLast = some .directory)
    ⟨fun ⟨hdepth, hdistinct, hproper, hnames, hclosed⟩ =>
      ⟨hdepth, hdistinct, hproper, hnames, hclosed⟩,
     fun h => ⟨h.depth, h.distinct, h.proper, h.names, h.closed⟩⟩

variable {t : FileTree} {l dir : Location} {e : FileEntry} {n : String}

/-! ## Entries -/

theorem entryAt_eq_some_iff {records : List FileRecord}
    (hdepth : ∀ r ∈ records, r.depth = r.location.length)
    (hdistinct : (records.map FileRecord.location).Nodup) :
    entryAt l.length l records = some e ↔ ∃ r ∈ records, r.location = l ∧ r.entry = e := by
  induction records with
  | nil => simp [entryAt]
  | cons r rest ih =>
    obtain ⟨hr, hrest⟩ := List.forall_mem_cons.1 hdepth
    obtain ⟨hnew, hdistinct⟩ := List.nodup_cons.1 hdistinct
    rw [entryAt, hr]
    by_cases hl : r.location = l
    · have hother : ∀ s ∈ rest, s.location ≠ l := fun s hs heq =>
        hnew (List.mem_map.2 ⟨s, hs, heq.trans hl.symm⟩)
      rw [if_pos ⟨by rw [hl], hl⟩, Option.some_inj]
      constructor
      · exact fun he => ⟨r, List.mem_cons_self, hl, he⟩
      · rintro ⟨s, hs, hsl, hse⟩
        rcases List.mem_cons.1 hs with rfl | hs
        · exact hse
        · exact absurd hsl (hother s hs)
    · rw [if_neg fun h => hl h.2, ih hrest hdistinct]
      simp [hl]

namespace WellFormed

/-- What stands at a location is what its record says. -/
theorem get?_eq_some_iff (ht : t.WellFormed) (hl : l ≠ []) :
    t.get? l = some e ↔ ∃ r ∈ t.records, r.location = l ∧ r.entry = e := by
  rw [get?, if_neg hl, entryAt_eq_some_iff ht.depth ht.distinct]

theorem get?_dropLast (ht : t.WellFormed) (h : t.get? l = some e) :
    t.get? l.dropLast = some .directory := by
  by_cases hl : l = []
  · subst hl
    rfl
  · obtain ⟨r, hr, rfl, -⟩ := (ht.get?_eq_some_iff hl).1 h
    exact ht.closed r hr

/-- **Every location on the way to an entry is a directory.** -/
theorem isDirectory (ht : t.WellFormed) {front back : Location} (hback : back ≠ [])
    (h : t.get? (front ++ back) = some e) : t.get? front = some .directory := by
  induction back using List.reverseRecOn generalizing e with
  | nil => exact absurd rfl hback
  | append_singleton init last ih =>
    have hparent := ht.get?_dropLast h
    rw [← List.append_assoc, List.dropLast_concat] at hparent
    rcases eq_or_ne init [] with rfl | hinit
    · rwa [List.append_nil] at hparent
    · exact ih hinit hparent

theorem isFileName (ht : t.WellFormed) (h : t.get? l = some e) : ∀ n ∈ l, IsFileName n := by
  by_cases hl : l = []
  · subst hl
    exact fun n hn => by cases hn
  · obtain ⟨r, hr, rfl, -⟩ := (ht.get?_eq_some_iff hl).1 h
    exact ht.names r hr

/-- **No location is deeper than there are records**: those on the way to it have one each. -/
theorem length_le (ht : t.WellFormed) (h : t.get? l = some e) : l.length ≤ t.records.length := by
  have hway : (List.range l.length).map (fun k => l.take (k + 1)) ⊆
      t.records.map FileRecord.location := by
    intro m hm
    obtain ⟨k, hk, rfl⟩ := List.mem_map.1 hm
    rw [List.mem_range] at hk
    have hne : l.take (k + 1) ≠ [] := by
      rw [ne_eq, List.take_eq_nil_iff]
      rintro (h0 | rfl)
      · cases h0
      · cases hk
    have hentry : ∃ e, t.get? (l.take (k + 1)) = some e := by
      rcases eq_or_ne (l.drop (k + 1)) [] with hdrop | hdrop
      · have htake := List.take_append_drop (k + 1) l
        rw [hdrop, List.append_nil] at htake
        exact ⟨e, by rwa [htake]⟩
      · exact ⟨.directory, ht.isDirectory hdrop (by rwa [List.take_append_drop])⟩
    obtain ⟨e', he'⟩ := hentry
    obtain ⟨r, hr, hloc, -⟩ := (ht.get?_eq_some_iff hne).1 he'
    exact List.mem_map.2 ⟨r, hr, hloc⟩
  have hdistinct : ((List.range l.length).map fun k => l.take (k + 1)).Nodup := by
    refine List.Nodup.map_on (fun j hj k hk heq => ?_) List.nodup_range
    have hlength := congrArg List.length heq
    rw [List.mem_range] at hj hk
    simp only [List.length_take] at hlength
    omega
  have hle := (List.subperm_of_subset hdistinct hway).length_le
  simpa using hle

end WellFormed

/-! ## Children -/

/-- The name and the entry of a record that stands in a directory. -/
def childOf? (dir : Location) (r : FileRecord) : Option (String × FileEntry) :=
  if r.depth = dir.length + 1 ∧ r.location.dropLast = dir then
    r.location.getLast?.map fun name => (name, r.entry)
  else none

theorem childOf?_eq_some_iff {r : FileRecord} (hr : r.depth = r.location.length) :
    childOf? dir r = some (n, e) ↔ r.location = dir ++ [n] ∧ r.entry = e := by
  unfold childOf?
  constructor
  · intro h
    split at h
    · rename_i hchild
      obtain ⟨name, hlast, heq⟩ := Option.map_eq_some_iff.1 h
      obtain ⟨rfl, rfl⟩ := Prod.mk.inj heq
      obtain ⟨init, hinit⟩ := List.getLast?_eq_some_iff.1 hlast
      have hdir := hchild.2
      rw [hinit, List.dropLast_concat] at hdir
      exact ⟨by rw [hinit, hdir], rfl⟩
    · cases h
  · rintro ⟨hloc, rfl⟩
    rw [if_pos ⟨by rw [hr, hloc, List.length_append]; rfl, by rw [hloc, List.dropLast_concat]⟩,
      hloc, List.getLast?_concat]
    rfl

/-- **The children of a directory are its entries.** -/
theorem WellFormed.mem_children_iff (ht : t.WellFormed) :
    (n, e) ∈ t.children dir ↔ t.get? (dir ++ [n]) = some e := by
  have hchildren : t.children dir =
      (t.records.filterMap (childOf? dir)).mergeSort fun a b => decide (a.1 ≤ b.1) := rfl
  rw [hchildren, List.mem_mergeSort, List.mem_filterMap, ht.get?_eq_some_iff (by simp)]
  exact exists_congr fun r => and_congr_right fun hr => childOf?_eq_some_iff (ht.depth r hr)

/-- **The children of a directory stand in the order of their names**, each once. -/
theorem WellFormed.children_pairwise (ht : t.WellFormed) (dir : Location) :
    (t.children dir).Pairwise fun a b => a.1 < b.1 := by
  have hle : (t.children dir).Pairwise fun a b => decide (a.1 ≤ b.1) = true :=
    List.pairwise_mergeSort
      (fun a b c hab hbc => by
        rw [decide_eq_true_eq] at hab hbc ⊢
        exact le_trans hab hbc)
      (fun a b => by
        rw [Bool.or_eq_true, decide_eq_true_eq, decide_eq_true_eq]
        exact le_total a.1 b.1) _
  have hne : (t.children dir).Pairwise fun a b => a.1 ≠ b.1 := by
    have hperm : (t.children dir).Perm (t.records.filterMap (childOf? dir)) :=
      List.mergeSort_perm _ _
    have hrecords : t.records.Pairwise fun r s => r.location ≠ s.location :=
      List.pairwise_map.1 ht.distinct
    refine (hperm.pairwise_iff fun h => h.symm).2 ?_
    refine List.pairwise_filterMap.2 (hrecords.imp_of_mem fun {r s} hr hs hrs a ha b hb hab => ?_)
    obtain ⟨m, e⟩ := a
    obtain ⟨n, e'⟩ := b
    obtain ⟨hr, -⟩ := (childOf?_eq_some_iff (ht.depth r hr)).1 ha
    obtain ⟨hs, -⟩ := (childOf?_eq_some_iff (ht.depth s hs)).1 hb
    dsimp only at hab
    exact hrs (by rw [hr, hs, hab])
  refine (hle.and hne).imp fun h => ?_
  rw [decide_eq_true_eq] at h
  exact lt_of_le_of_ne h.1 h.2

end FileTree

end ContractCompiler
