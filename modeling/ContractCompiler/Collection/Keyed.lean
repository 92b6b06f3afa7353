/-!
# Keyed collections

Two collections of values under texts. A `Table` keeps its keys in the order in which they first
came; an `OrderedMap` keeps them in strictly ascending order, so two maps with the same entries are
equal. A `NameSet` is an ordered map without values.

Principal results: `insertEntry_ascending` — insertion keeps the order; `mem_keys_insertWith` — it
adds its key and no other.
-/

namespace ContractCompiler

/-! ## Tables

`Table.put` replaces the value of a key that is present where it stands, and appends a new key at
the end.
-/

/-- Keyed entries in the order in which the keys first came. -/
abbrev Table (α : Type) := List (String × α)

namespace Table

def keys {α : Type} (t : Table α) : List String := t.map (·.1)

/-- The value of a key. -/
def get? {α : Type} : Table α → String → Option α
  | [], _ => none
  | (k, v) :: rest, key => if k = key then some v else get? rest key

/-- Sets the value of a key: in place when the key is present, at the end otherwise. -/
def put {α : Type} : Table α → String → α → Table α
  | [], key, value => [(key, value)]
  | (k, v) :: rest, key, value =>
    if k = key then (k, value) :: rest else (k, v) :: put rest key value

/-- The table of a list of entries: a repeated key keeps its first place and its last value. -/
def ofEntries {α : Type} (entries : List (String × α)) : Table α :=
  entries.foldl (fun t e => t.put e.1 e.2) []

end Table

/-! ## Ordered maps

Keys compare by code point, which is also the order of their UTF-8 bytes. `insertWith` says what
becomes of a key that is present.
-/

/-- The keys of the entries ascend strictly. -/
abbrev Ascending {β : Type} (entries : List (String × β)) : Prop :=
  entries.Pairwise fun a b => a.1 < b.1

/-- Inserts a value under a key; `combine old new` is the value of a key that is present. -/
def insertEntry {β : Type} (combine : β → β → β) (key : String) (value : β) :
    List (String × β) → List (String × β)
  | [] => [(key, value)]
  | (k, v) :: rest =>
    if key < k then (key, value) :: (k, v) :: rest
    else if key = k then (k, combine v value) :: rest
    else (k, v) :: insertEntry combine key value rest

section Entries

variable {β : Type} {combine : β → β → β} {key : String} {value : β}

/-- The keys after an insertion are the keys before it and the new one. -/
theorem mem_keys_insertEntry {x : String} {entries : List (String × β)} :
    x ∈ (insertEntry combine key value entries).map (·.1) ↔ x = key ∨ x ∈ entries.map (·.1) := by
  induction entries with
  | nil => simp [insertEntry]
  | cons e rest ih =>
    obtain ⟨k, v⟩ := e
    unfold insertEntry
    split
    · simp
    · split
      · rename_i h
        subst h
        simp
      · simp only [List.map_cons, List.mem_cons, ih]
        constructor
        · rintro (h | h | h)
          · exact Or.inr (Or.inl h)
          · exact Or.inl h
          · exact Or.inr (Or.inr h)
        · rintro (h | h | h)
          · exact Or.inr (Or.inl h)
          · exact Or.inl h
          · exact Or.inr (Or.inr h)

/-- Insertion keeps the keys ascending. -/
theorem insertEntry_ascending {entries : List (String × β)} (h : Ascending entries) :
    Ascending (insertEntry combine key value entries) := by
  induction entries with
  | nil => simp [insertEntry, Ascending]
  | cons e rest ih =>
    obtain ⟨k, v⟩ := e
    obtain ⟨hk, hr⟩ := List.pairwise_cons.1 h
    unfold insertEntry
    split
    · rename_i hlt
      refine List.pairwise_cons.2 ⟨?_, h⟩
      intro b hb
      rcases List.mem_cons.1 hb with rfl | hb
      · exact hlt
      · exact String.lt_trans hlt (hk b hb)
    · split
      · exact List.pairwise_cons.2 ⟨hk, hr⟩
      · rename_i hnlt hne
        refine List.pairwise_cons.2 ⟨?_, ih hr⟩
        intro b hb
        have hmem : b.1 ∈ (insertEntry combine key value rest).map (·.1) :=
          List.mem_map.2 ⟨b, hb, rfl⟩
        rcases mem_keys_insertEntry.1 hmem with hb' | hb'
        · have hle : k ≤ key := String.not_lt.1 hnlt
          show k < b.1
          rw [hb']
          exact Std.lt_of_le_of_ne hle (Ne.symm hne)
        · obtain ⟨c, hc, hcb⟩ := List.mem_map.1 hb'
          rw [← hcb]
          exact hk c hc

end Entries

/-- Keyed values in ascending order of their keys. -/
structure OrderedMap (β : Type) where
  entries : List (String × β)
  ascending : Ascending entries
deriving DecidableEq, Repr

namespace OrderedMap

variable {β : Type}

def empty : OrderedMap β := ⟨[], List.Pairwise.nil⟩

def keys (m : OrderedMap β) : List String := m.entries.map (·.1)

/-- Inserts a value; `combine old new` is the value of a key that is present. -/
def insertWith (combine : β → β → β) (key : String) (value : β) (m : OrderedMap β) : OrderedMap β :=
  ⟨insertEntry combine key value m.entries, insertEntry_ascending m.ascending⟩

/-- Inserts the entries of `other` one by one. -/
def mergeWith (combine : β → β → β) (m other : OrderedMap β) : OrderedMap β :=
  other.entries.foldl (fun acc e => acc.insertWith combine e.1 e.2) m

theorem mem_keys_insertWith {combine : β → β → β} {key : String} {value : β} {m : OrderedMap β}
    {x : String} : x ∈ (m.insertWith combine key value).keys ↔ x = key ∨ x ∈ m.keys :=
  mem_keys_insertEntry

end OrderedMap

/-- Names in ascending order, each once. -/
abbrev NameSet := OrderedMap Unit

namespace NameSet

def insert (name : String) (s : NameSet) : NameSet := s.insertWith (fun _ _ => ()) name ()

/-- The names of both sets. -/
def union (s t : NameSet) : NameSet := OrderedMap.mergeWith (fun _ _ => ()) s t

end NameSet

end ContractCompiler
