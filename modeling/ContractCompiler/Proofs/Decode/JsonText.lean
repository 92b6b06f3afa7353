import ContractCompiler.Decode.JsonText
import ContractCompiler.Proofs.Decode.Rendition
import ContractCompiler.Proofs.Json.Text

/-!
# Typed values are read from the text of a value

A value whose containers nest below the limit is read from its indented text as from itself.

* `rendition` — the trees of values stand for the values, as long as they nest below the limit.
* `decode_pretty` — what a value is read as, its indented text is read as.
-/

namespace ContractCompiler

open Decode

namespace Json

/-! ## Nesting -/

mutual

/-- The number of containers around the innermost one, itself included. -/
def depth : Json → Nat
  | null | bool _ | number _ | string _ => 0
  | array items => depthOfItems items + 1
  | object members => depthOfMembers members + 1

/-- The greatest depth of the items. -/
def depthOfItems : List Json → Nat
  | [] => 0
  | v :: rest => max (depth v) (depthOfItems rest)

/-- The greatest depth of the values of the members. -/
def depthOfMembers : List (String × Json) → Nat
  | [] => 0
  | (_, v) :: rest => max (depth v) (depthOfMembers rest)

end

namespace Raw

/-- Inside containers of this level, the value nests below the limit. -/
def Fits (level : Nat) (v : Json) : Prop := level + v.depth < maxLevel

variable {level : Nat} {items : List Json} {members : List (String × Json)}

theorem fits_array :
    Fits level (.array items) ↔ level + 1 < maxLevel ∧ ∀ v ∈ items, Fits (level + 1) v := by
  unfold Fits
  rw [depth]
  induction items with
  | nil => simp [depthOfItems]
  | cons v rest ih =>
    rw [depthOfItems, List.forall_mem_cons, and_left_comm, ← ih]
    omega

theorem fits_object :
    Fits level (.object members) ↔ level + 1 < maxLevel ∧ ∀ m ∈ members, Fits (level + 1) m.2 := by
  unfold Fits
  rw [depth]
  induction members with
  | nil => simp [depthOfMembers]
  | cons m rest ih =>
    rw [depthOfMembers, List.forall_mem_cons, and_left_comm, ← ih]
    omega

theorem ofItems_eq_map : ofItems level items = items.map (ofJson level) := by
  induction items with
  | nil => rfl
  | cons v rest ih => rw [ofItems, ih, List.map_cons]

theorem ofMembers_eq_map :
    ofMembers level members = members.map fun m => (some m.1, ofJson level m.2) := by
  induction members with
  | nil => rfl
  | cons m rest ih => rw [ofMembers, ih, List.map_cons]

/-! ## Values and contents of trees -/

theorem itemsToJson_ofItems (h : ∀ v ∈ items, toJson (ofJson level v) = .ok v.distinct) :
    itemsToJson (ofItems level items) = .ok (items.map distinct) := by
  induction items with
  | nil => rfl
  | cons v rest ih =>
    obtain ⟨hv, hrest⟩ := List.forall_mem_cons.1 h
    rw [ofItems, itemsToJson, hv, ih hrest]
    rfl

theorem membersToJson_ofMembers (h : ∀ m ∈ members, toJson (ofJson level m.2) = .ok m.2.distinct) :
    membersToJson (ofMembers level members) = .ok (members.map fun m => (m.1, m.2.distinct)) := by
  induction members with
  | nil => rfl
  | cons m rest ih =>
    obtain ⟨hm, hrest⟩ := List.forall_mem_cons.1 h
    rw [ofMembers, membersToJson, hm, ih hrest]
    rfl

/-- **The tree of a value is read as the value without repeated keys.** -/
theorem toJson_ofJson {v : Json} :
    ∀ {level : Nat}, Fits level v → toJson (ofJson level v) = .ok v.distinct := by
  induction v with
  | null | bool | number | string => exact fun _ => rfl
  | array items ih =>
    intro level h
    obtain ⟨hlevel, hitems⟩ := fits_array.1 h
    rw [ofJson, toJson, if_pos hlevel, itemsToJson_ofItems fun v hv => ih v hv (hitems v hv),
      distinct, distinctItems_eq_map]
    rfl
  | object members ih =>
    intro level h
    obtain ⟨hlevel, hmembers⟩ := fits_object.1 h
    rw [ofJson, toJson, if_pos hlevel, membersToJson_ofMembers fun m hm => ih m hm (hmembers m hm),
      distinct, distinctMembers_eq_map]
    rfl

theorem itemsToContent_ofItems (h : ∀ v ∈ items, toContent (ofJson level v) = .ok (.ofJson v)) :
    itemsToContent (ofItems level items) = .ok (Content.ofItems items) := by
  induction items with
  | nil => rfl
  | cons v rest ih =>
    obtain ⟨hv, hrest⟩ := List.forall_mem_cons.1 h
    rw [ofItems, itemsToContent, hv, ih hrest]
    rfl

theorem membersToContent_ofMembers
    (h : ∀ m ∈ members, toContent (ofJson level m.2) = .ok (.ofJson m.2)) :
    membersToContent (ofMembers level members) = .ok (Content.ofMembers members) := by
  induction members with
  | nil => rfl
  | cons m rest ih =>
    obtain ⟨hm, hrest⟩ := List.forall_mem_cons.1 h
    rw [ofMembers, membersToContent, hm, ih hrest]
    rfl

/-- The tree of a value is read as its content. -/
theorem toContent_ofJson {v : Json} :
    ∀ {level : Nat}, Fits level v → toContent (ofJson level v) = .ok (.ofJson v) := by
  induction v with
  | null | bool | number | string => exact fun _ => rfl
  | array items ih =>
    intro level h
    obtain ⟨hlevel, hitems⟩ := fits_array.1 h
    rw [ofJson, toContent, if_pos hlevel, itemsToContent_ofItems fun v hv => ih v hv (hitems v hv),
      Content.ofJson]
    rfl
  | object members ih =>
    intro level h
    obtain ⟨hlevel, hmembers⟩ := fits_object.1 h
    rw [ofJson, toContent, if_pos hlevel,
      membersToContent_ofMembers fun m hm => ih m hm (hmembers m hm), Content.ofJson]
    rfl

/-! ## Typed values -/

/-- The node is the tree of the value, nested below the limit. -/
def Stands (n : Raw) (v : Json) : Prop := ∃ level, n = ofJson level v ∧ Fits level v

theorem stands_items (hlevel : ∀ v ∈ items, Fits level v) :
    List.Forall₂ Stands (ofItems level items) items := by
  rw [ofItems_eq_map]
  exact List.forall₂_map_left_iff.2
    (List.forall₂_same.2 fun v hv => ⟨level, rfl, hlevel v hv⟩)

theorem stands_members (hlevel : level < maxLevel) (hmembers : ∀ m ∈ members, Fits level m.2) :
    List.Forall₂ (fun e m => Stands e.1 (.string m.1) ∧ Stands e.2 m.2)
      ((ofMembers level members).map keyed) members := by
  rw [ofMembers_eq_map, List.map_map]
  exact List.forall₂_map_left_iff.2
    (List.forall₂_same.2 fun m hm => ⟨⟨level, rfl, hlevel⟩, ⟨level, rfl, hmembers m hm⟩⟩)

/-- **The trees of values stand for the values**, as long as they nest below the limit. -/
def rendition : Rendition Raw (Except Fault) where
  Stands := Stands
  Exact := HasDistinctKeys
  within_pure _ _ := rfl
  text h _ := by
    obtain ⟨level, rfl, -⟩ := h
    rfl
  flag h := by
    obtain ⟨level, rfl, -⟩ := h
    rfl
  word {n w} h := by
    obtain ⟨level, rfl, -⟩ := h
    exact wordOfNumber_toNat w _
  absent h := by
    obtain ⟨level, rfl, -⟩ := h
    rfl
  present {n v} h hv := by
    obtain ⟨level, rfl, -⟩ := h
    cases v with
    | null => exact absurd rfl hv
    | bool | number | string | array | object => rfl
  items h := by
    obtain ⟨level, rfl, hfits⟩ := h
    obtain ⟨hlevel, hitems⟩ := fits_array.1 hfits
    exact ⟨_, if_pos hlevel, stands_items hitems⟩
  entries h _ := by
    obtain ⟨level, rfl, hfits⟩ := h
    obtain ⟨hlevel, hmembers⟩ := fits_object.1 hfits
    exact ⟨_, if_pos hlevel, stands_members hlevel hmembers⟩
  record h _ := by
    obtain ⟨level, rfl, hfits⟩ := h
    obtain ⟨hlevel, hmembers⟩ := fits_object.1 hfits
    exact ⟨_, if_pos hlevel, stands_members hlevel hmembers⟩
  choice h hs := by
    obtain ⟨level, rfl, -⟩ := h
    exact if_pos (by simpa using hs)
  json {n v} h hv := by
    obtain ⟨level, rfl, hfits⟩ := h
    have hread := toJson_ofJson hfits
    rwa [distinct_eq_self hv] at hread
  content h := by
    obtain ⟨level, rfl, hfits⟩ := h
    exact toContent_ofJson hfits

/-- **What a value is read as, its indented text is read as.** -/
theorem decode_pretty {α : Type} {read : Raw → Except Fault α} {v : Json} {a : α}
    (hfree : v.isDoubleFree = true) (hfits : Fits 0 v) (h : rendition.Reads read v a) :
    decode read v.pretty = .ok a := by
  have hread : read (ofJson 0 v) = .ok a := h (ofJson 0 v) ⟨0, rfl, hfits⟩
  rw [decode, ofText_pretty hfree]
  dsimp only
  rw [hread]
  rfl

end Raw

end Json

end ContractCompiler
