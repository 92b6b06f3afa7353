import ContractCompiler.Decode.Source
import ContractCompiler.Proofs.Collection.Table

/-!
# Values without repeated keys

An object in memory holds each key once. `Json.distinct` is what becomes of a value on its way
through a content: a repeated key keeps its first place and its last value, at every level.

* `distinct_eq_self` — a value without repeated keys is left as it is.
* `toJson_ofJson` — a value read as a content and turned back is the value without repeated keys.
* `hasDistinctKeys_of_toJson` — whatever a content turns into has no repeated keys.
-/

namespace ContractCompiler

open Decode

namespace Json

/-- Induction over the items and the members of a value. -/
@[elab_as_elim, induction_eliminator]
theorem inductionOn {P : Json → Prop} (null : P null) (bool : ∀ b, P (bool b))
    (number : ∀ n, P (number n)) (string : ∀ s, P (string s))
    (array : ∀ items, (∀ v ∈ items, P v) → P (array items))
    (object : ∀ members, (∀ m ∈ members, P m.2) → P (object members)) (v : Json) : P v :=
  @Json.rec P (fun items => ∀ v ∈ items, P v) (fun members => ∀ m ∈ members, P m.2)
    (fun m => P m.2) null bool number string array object (fun _ h => by cases h)
    (fun _ _ hv hrest => List.forall_mem_cons.2 ⟨hv, hrest⟩) (fun _ h => by cases h)
    (fun _ _ hm hrest => List.forall_mem_cons.2 ⟨hm, hrest⟩) (fun _ _ h => h) v

mutual

/-- The value in which every object holds each key once. -/
def distinct : Json → Json
  | null => null
  | bool b => bool b
  | number n => number n
  | string s => string s
  | array items => array (distinctItems items)
  | object members => object (Table.ofEntries (distinctMembers members))

def distinctItems : List Json → List Json
  | [] => []
  | v :: rest => distinct v :: distinctItems rest

def distinctMembers : List (String × Json) → List (String × Json)
  | [] => []
  | (k, v) :: rest => (k, distinct v) :: distinctMembers rest

end

mutual

/-- No object in the value repeats a key. -/
def HasDistinctKeys : Json → Prop
  | null | bool _ | number _ | string _ => True
  | array items => ItemsHaveDistinctKeys items
  | object members => (members.map Prod.fst).Nodup ∧ MembersHaveDistinctKeys members

def ItemsHaveDistinctKeys : List Json → Prop
  | [] => True
  | v :: rest => HasDistinctKeys v ∧ ItemsHaveDistinctKeys rest

def MembersHaveDistinctKeys : List (String × Json) → Prop
  | [] => True
  | (_, v) :: rest => HasDistinctKeys v ∧ MembersHaveDistinctKeys rest

end

theorem distinctItems_eq_map (items : List Json) : distinctItems items = items.map distinct := by
  induction items with
  | nil => rfl
  | cons v rest ih => rw [distinctItems, ih, List.map_cons]

theorem distinctMembers_eq_map (members : List (String × Json)) :
    distinctMembers members = members.map fun m => (m.1, m.2.distinct) := by
  induction members with
  | nil => rfl
  | cons m rest ih => rw [distinctMembers, ih, List.map_cons]

theorem hasDistinctKeys_array {items : List Json} :
    (array items).HasDistinctKeys ↔ ∀ v ∈ items, v.HasDistinctKeys := by
  rw [HasDistinctKeys]
  induction items with
  | nil => simp [ItemsHaveDistinctKeys]
  | cons v rest ih => rw [ItemsHaveDistinctKeys, ih, List.forall_mem_cons]

theorem hasDistinctKeys_object {members : List (String × Json)} :
    (object members).HasDistinctKeys ↔
      (members.map Prod.fst).Nodup ∧ ∀ m ∈ members, m.2.HasDistinctKeys := by
  have hall : MembersHaveDistinctKeys members ↔ ∀ m ∈ members, m.2.HasDistinctKeys := by
    induction members with
    | nil => simp [MembersHaveDistinctKeys]
    | cons m rest ih => rw [MembersHaveDistinctKeys, ih, List.forall_mem_cons]
  rw [HasDistinctKeys, hall]

/-- **A value without repeated keys is left as it is.** -/
theorem distinct_eq_self {v : Json} (h : v.HasDistinctKeys) : v.distinct = v := by
  induction v with
  | null | bool | number | string => rfl
  | array items ih =>
    have hitems := hasDistinctKeys_array.1 h
    have hmap : items.map distinct = items.map id :=
      List.map_congr_left fun v hv => ih v hv (hitems v hv)
    rw [distinct, distinctItems_eq_map, hmap, List.map_id]
  | object members ih =>
    obtain ⟨hkeys, hmembers⟩ := hasDistinctKeys_object.1 h
    have hmap : (members.map fun m => (m.1, m.2.distinct)) = members.map id :=
      List.map_congr_left fun m hm => by rw [ih m hm (hmembers m hm), id]
    rw [distinct, distinctMembers_eq_map, hmap, List.map_id, Table.ofEntries_of_nodup hkeys]

end Json

/-! ## Contents -/

namespace Decode.Content

theorem ofItems_eq_map (items : List Json) : ofItems items = items.map ofJson := by
  induction items with
  | nil => rfl
  | cons v rest ih => rw [ofItems, ih, List.map_cons]

theorem ofMembers_eq_map (members : List (String × Json)) :
    ofMembers members = members.map fun m => (string m.1, ofJson m.2) := by
  induction members with
  | nil => rfl
  | cons m rest ih => rw [ofMembers, ih, List.map_cons]

theorem itemsToJson_map {items : List Json}
    (h : ∀ v ∈ items, (ofJson v).toJson = .ok v.distinct) :
    itemsToJson (items.map ofJson) = .ok (items.map Json.distinct) := by
  induction items with
  | nil => rfl
  | cons v rest ih =>
    obtain ⟨hv, hrest⟩ := List.forall_mem_cons.1 h
    rw [List.map_cons, itemsToJson, hv, ih hrest]
    rfl

theorem entriesToJson_map {members : List (String × Json)}
    (h : ∀ m ∈ members, (ofJson m.2).toJson = .ok m.2.distinct) :
    ∀ expected, entriesToJson expected (members.map fun m => (string m.1, ofJson m.2)) =
      .ok (members.map fun m => (m.1, m.2.distinct)) := by
  induction members with
  | nil => exact fun _ => rfl
  | cons m rest ih =>
    intro expected
    obtain ⟨hm, hrest⟩ := List.forall_mem_cons.1 h
    rw [List.map_cons, entriesToJson]
    simp only [hm, ih hrest, List.map_cons]

/-- **A value read as a content and turned back is the value without repeated keys.** -/
theorem toJson_ofJson (v : Json) : (ofJson v).toJson = .ok v.distinct := by
  induction v with
  | null | bool | number | string => rfl
  | array items ih =>
    rw [ofJson, toJson, ofItems_eq_map, itemsToJson_map ih, Json.distinct, Json.distinctItems_eq_map]
  | object members ih =>
    rw [ofJson, toJson, ofMembers_eq_map, entriesToJson_map ih, Json.distinct,
      Json.distinctMembers_eq_map]

mutual

/-- **Whatever a content turns into has no repeated keys.** -/
theorem hasDistinctKeys_of_toJson : ∀ {c : Content} {v : Json}, c.toJson = .ok v → v.HasDistinctKeys
  | .unit, _, h | .bool _, _, h | .number _, _, h | .unbounded _, _, h | .string _, _, h => by
    simp only [toJson, Except.ok.injEq] at h
    subst h
    trivial
  | .list items, v, h => by
    rw [toJson] at h
    split at h
    · cases h
    · rename_i values hvalues
      cases h
      exact Json.hasDistinctKeys_array.2 (hasDistinctKeys_of_itemsToJson hvalues)
  | .map entries, v, h => by
    rw [toJson] at h
    split at h
    · cases h
    · rename_i members hmembers
      cases h
      refine Json.hasDistinctKeys_object.2 ⟨Table.keys_ofEntries_nodup members, fun m hm => ?_⟩
      exact hasDistinctKeys_of_entriesToJson hmembers m (Table.mem_of_mem_ofEntries hm)

theorem hasDistinctKeys_of_itemsToJson :
    ∀ {items : List Content} {values : List Json}, itemsToJson items = .ok values →
      ∀ v ∈ values, v.HasDistinctKeys
  | [], values, h => by
    cases h
    exact fun _ hv => by cases hv
  | c :: rest, values, h => by
    rw [itemsToJson] at h
    split at h
    · cases h
    · rename_i v hv
      split at h
      · cases h
      · rename_i vs hvs
        cases h
        exact List.forall_mem_cons.2
          ⟨hasDistinctKeys_of_toJson hv, hasDistinctKeys_of_itemsToJson hvs⟩

theorem hasDistinctKeys_of_entriesToJson :
    ∀ {entries : List (Content × Content)} {expected : String} {members : List (String × Json)},
      entriesToJson expected entries = .ok members → ∀ m ∈ members, m.2.HasDistinctKeys
  | [], _, members, h => by
    cases h
    exact fun _ hm => by cases hm
  | (k, c) :: rest, _, members, h => by
    unfold entriesToJson at h
    split at h
    · split at h
      · cases h
      · rename_i v hv
        split at h
        · cases h
        · rename_i vs hvs
          cases h
          exact List.forall_mem_cons.2
            ⟨hasDistinctKeys_of_toJson hv, hasDistinctKeys_of_entriesToJson hvs⟩
    · cases h

end

end Decode.Content

/-- Taking out repeated keys leaves none. -/
theorem Json.hasDistinctKeys_distinct (v : Json) : v.distinct.HasDistinctKeys :=
  Content.hasDistinctKeys_of_toJson (Content.toJson_ofJson v)

theorem Json.distinct_eq_self_iff {v : Json} : v.distinct = v ↔ v.HasDistinctKeys := by
  refine ⟨fun h => ?_, distinct_eq_self⟩
  rw [← h]
  exact hasDistinctKeys_distinct v

instance (v : Json) : Decidable v.HasDistinctKeys := decidable_of_iff _ Json.distinct_eq_self_iff

end ContractCompiler
