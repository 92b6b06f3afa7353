import Mathlib.Data.List.Basic
import Mathlib.Data.List.Sort
import ContractCompiler.Collection.Keyed
import ContractCompiler.Proofs.Collection.Table

/-!
# Laws of ordered maps

A map is what it holds under its keys: `OrderedMap.Has` says that it holds a value with some
property under a key. Insertion and merging combine what both sides hold under a key and leave the
other keys alone, so a merge obeys the laws that `combine` obeys.

* `has_insertWith_iff` — an insertion makes its own value hold, combined with the value before it, and
  keeps what was held.
* `nodup_keys` — no key stands twice.
* `ext_get?` — maps that hold the same under every key are equal.
* `get?_insertWith`, `get?_mergeWith` — insertion and merging, key by key.
* `mergeWith_assoc`, `mergeWith_comm`, `mergeWith_self` — the laws that a merge takes from `combine`;
  the union of names has them all.
* `mergeWith_single` — an insertion is a merge with a map of one entry.
-/

namespace ContractCompiler

/-! ## Look-ups -/

namespace OrderedMap

variable {β : Type} {m : OrderedMap β} {combine : β → β → β} {key : String} {value : β}

/-- The map holds a value with the property under the key. -/
def Has (m : OrderedMap β) (key : String) (P : β → Prop) : Prop := ∃ e ∈ m.entries, e.1 = key ∧ P e.2

theorem exists_mem_insertEntry_iff {P : β → Prop} {k : String}
    (hcombine : ∀ old, P (combine old value) ↔ P old ∨ P value) {entries : List (String × β)} :
    (∃ e ∈ insertEntry combine key value entries, e.1 = k ∧ P e.2) ↔
      (∃ e ∈ entries, e.1 = k ∧ P e.2) ∨ key = k ∧ P value := by
  induction entries with
  | nil => simp [insertEntry]
  | cons d rest ih =>
    obtain ⟨l, v⟩ := d
    unfold insertEntry
    split
    · rw [List.exists_mem_cons_iff, or_comm]
    · split
      · rename_i hl
        subst hl
        simp only [List.exists_mem_cons_iff, hcombine, and_or_left]
        rw [or_right_comm]
      · rw [List.exists_mem_cons_iff, ih, List.exists_mem_cons_iff, or_assoc]

/-- What a map holds after an insertion, when the property of a combined value is that of one of
its parts. -/
theorem has_insertWith_iff {P : β → Prop} {k : String}
    (hcombine : ∀ old, P (combine old value) ↔ P old ∨ P value) :
    (m.insertWith combine key value).Has k P ↔ m.Has k P ∨ key = k ∧ P value :=
  exists_mem_insertEntry_iff hcombine

theorem mem_keys_foldl_insertWith {x : String} (entries : List (String × β)) :
    ∀ {m : OrderedMap β},
      x ∈ (entries.foldl (fun acc e => acc.insertWith combine e.1 e.2) m).keys ↔
        x ∈ m.keys ∨ x ∈ entries.map (·.1) := by
  induction entries with
  | nil => simp
  | cons e rest ih =>
    intro m
    rw [List.foldl_cons, ih, mem_keys_insertWith, List.map_cons, List.mem_cons, or_comm (a := x = e.1),
      or_assoc]

/-- No key stands twice. -/
theorem nodup_keys (m : OrderedMap β) : m.keys.Nodup :=
  List.pairwise_map.2 (m.ascending.imp fun h => String.ne_of_lt h)

/-- The keys of a merged map. -/
theorem mem_keys_mergeWith {x : String} {other : OrderedMap β} :
    x ∈ (m.mergeWith combine other).keys ↔ x ∈ m.keys ∨ x ∈ other.keys :=
  mem_keys_foldl_insertWith other.entries

end OrderedMap

namespace NameSet

theorem mem_keys_insert {x name : String} {s : NameSet} :
    x ∈ (s.insert name).keys ↔ x = name ∨ x ∈ s.keys := OrderedMap.mem_keys_insertWith

theorem mem_keys_union {x : String} {s t : NameSet} :
    x ∈ (s.union t).keys ↔ x ∈ s.keys ∨ x ∈ t.keys := OrderedMap.mem_keys_mergeWith

end NameSet

/-! ## Merging -/

/-- Keys in front of all others are not there. -/
theorem Table.get?_eq_none_of_lt {β : Type} {entries : List (String × β)} {key : String}
    (h : ∀ e ∈ entries, key < e.1) : Table.get? entries key = none := by
  induction entries with
  | nil => rfl
  | cons e rest ih =>
    obtain ⟨he, hrest⟩ := List.forall_mem_cons.1 h
    rw [Table.get?, if_neg (String.ne_of_lt he).symm]
    exact ih hrest

/-- An entry in ascending order is found under its key, and nothing else is. -/
theorem Table.get?_eq_some_iff_of_ascending {β : Type} {entries : List (String × β)} {key : String}
    {value : β} (h : Ascending entries) :
    Table.get? entries key = some value ↔ (key, value) ∈ entries := by
  induction entries with
  | nil => simp [Table.get?]
  | cons e rest ih =>
    obtain ⟨k, v⟩ := e
    obtain ⟨hk, hrest⟩ := List.pairwise_cons.1 h
    rw [Table.get?, List.mem_cons]
    split
    · rename_i heq
      subst heq
      have hnew : (k, value) ∉ rest := fun hmem => String.lt_irrefl k (hk _ hmem)
      simp [hnew, eq_comm]
    · rename_i hne
      rw [ih hrest, or_iff_right fun heq => hne (congrArg Prod.fst heq).symm]

/-- An insertion combines its value with what is there under its key. -/
theorem get?_insertEntry {β : Type} {combine : β → β → β} {key k : String} {value : β}
    {entries : List (String × β)} (h : Ascending entries) :
    Table.get? (insertEntry combine key value entries) k =
      if key = k then Option.merge combine (Table.get? entries k) (some value)
      else Table.get? entries k := by
  induction entries with
  | nil => simp [insertEntry, Table.get?]
  | cons e rest ih =>
    obtain ⟨l, v⟩ := e
    obtain ⟨hl, hrest⟩ := List.pairwise_cons.1 h
    unfold insertEntry
    split
    · rename_i hlt
      have hnone : Table.get? ((l, v) :: rest) key = none :=
        Table.get?_eq_none_of_lt (List.forall_mem_cons.2
          ⟨hlt, fun e he => String.lt_trans hlt (hl e he)⟩)
      rw [Table.get?]
      split
      · rename_i hkey
        rw [← hkey, hnone, Option.merge_none_left]
      · rfl
    · split
      · rename_i hkey
        subst hkey
        simp only [Table.get?]
        split <;> rfl
      · rename_i hne
        simp only [Table.get?]
        split
        · rename_i hlk
          rw [if_neg fun hkey => hne (hkey.trans hlk.symm)]
        · exact ih hrest

namespace OrderedMap

variable {β : Type} {combine : β → β → β} {m a b c : OrderedMap β} {key k : String} {value : β}

def get? (m : OrderedMap β) (key : String) : Option β := Table.get? m.entries key

theorem get?_eq_some_iff : m.get? key = some value ↔ (key, value) ∈ m.entries :=
  Table.get?_eq_some_iff_of_ascending m.ascending

/-- **Maps that hold the same under every key are equal.** -/
theorem ext_get? (h : ∀ k, a.get? k = b.get? k) : a = b := by
  have hmem (e : String × β) : e ∈ a.entries ↔ e ∈ b.entries := by
    obtain ⟨key, value⟩ := e
    rw [← get?_eq_some_iff, ← get?_eq_some_iff, h]
  have : Std.Antisymm fun x y : String × β => x.1 < y.1 :=
    ⟨fun x y hxy hyx => absurd hyx (String.lt_asymm hxy)⟩
  have : Std.Irrefl fun x y : String × β => x.1 < y.1 := ⟨fun x => String.lt_irrefl x.1⟩
  have hentries : a.entries = b.entries := List.Pairwise.eq_of_mem_iff a.ascending b.ascending hmem
  cases a
  cases b
  cases hentries
  rfl

/-! ## Key by key -/

theorem get?_insertWith :
    (m.insertWith combine key value).get? k =
      if key = k then Option.merge combine (m.get? k) (some value) else m.get? k :=
  get?_insertEntry m.ascending

theorem get?_foldl_insertWith {entries : List (String × β)} (h : Ascending entries) :
    ∀ {m : OrderedMap β},
      (entries.foldl (fun acc e => acc.insertWith combine e.1 e.2) m).get? k =
        Option.merge combine (m.get? k) (Table.get? entries k) := by
  induction entries with
  | nil => exact Option.merge_none_right.symm
  | cons e rest ih =>
    intro m
    obtain ⟨hk, hrest⟩ := List.pairwise_cons.1 h
    rw [List.foldl_cons, ih hrest, get?_insertWith, Table.get?]
    split
    · rename_i heq
      rw [← heq, Table.get?_eq_none_of_lt hk, Option.merge_none_right]
    · rfl

/-- **A merge combines what both maps hold under a key.** -/
theorem get?_mergeWith :
    (a.mergeWith combine b).get? k = Option.merge combine (a.get? k) (b.get? k) :=
  get?_foldl_insertWith b.ascending

/-! ## Laws -/

@[simp] theorem mergeWith_empty : m.mergeWith combine empty = m := rfl

@[simp] theorem empty_mergeWith : empty.mergeWith combine m = m :=
  ext_get? fun _ => by rw [get?_mergeWith]; exact Option.merge_none_left

theorem mergeWith_assoc [Std.Associative combine] (a b c : OrderedMap β) :
    (a.mergeWith combine b).mergeWith combine c = a.mergeWith combine (b.mergeWith combine c) :=
  ext_get? fun _ => by simp only [get?_mergeWith, Std.Associative.assoc]

theorem mergeWith_comm [Std.Commutative combine] (a b : OrderedMap β) :
    a.mergeWith combine b = b.mergeWith combine a :=
  ext_get? fun _ => by simp only [get?_mergeWith]; exact Std.Commutative.comm _ _

theorem mergeWith_right_comm [Std.Associative combine] [Std.Commutative combine]
    (a b c : OrderedMap β) :
    (a.mergeWith combine b).mergeWith combine c = (a.mergeWith combine c).mergeWith combine b := by
  rw [mergeWith_assoc, mergeWith_comm b c, ← mergeWith_assoc]

@[simp] theorem mergeWith_self [Std.IdempotentOp combine] (m : OrderedMap β) :
    m.mergeWith combine m = m :=
  ext_get? fun _ => by rw [get?_mergeWith]; exact Std.IdempotentOp.idempotent _

/-- An insertion is a merge with a map of one entry. -/
@[simp] theorem mergeWith_single :
    m.mergeWith combine (empty.insertWith combine key value) = m.insertWith combine key value := rfl

end OrderedMap

/-! ## Names -/

instance unit_associative : Std.Associative fun _ _ : Unit => () := ⟨fun _ _ _ => rfl⟩

instance unit_commutative : Std.Commutative fun _ _ : Unit => () := ⟨fun _ _ => rfl⟩

instance unit_idempotentOp : Std.IdempotentOp fun _ _ : Unit => () := ⟨fun _ => rfl⟩

namespace NameSet

instance union_associative : Std.Associative union := ⟨OrderedMap.mergeWith_assoc⟩

instance union_commutative : Std.Commutative union := ⟨OrderedMap.mergeWith_comm⟩

instance union_idempotentOp : Std.IdempotentOp union := ⟨OrderedMap.mergeWith_self⟩

end NameSet

end ContractCompiler
