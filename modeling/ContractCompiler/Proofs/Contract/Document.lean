import ContractCompiler.Contract.Reading
import ContractCompiler.Proofs.Decode.Ensures
import ContractCompiler.Proofs.Json.Distinct

/-!
# Values of contract documents

Contracts are loaded from the JSON values that documents hold. Mappings of a document may repeat a
key; the objects they become do not.

* `hasDistinctKeys_of_document` — no object in the value of a document repeats a key.
* `Contract.exists_value_of_document` — a contract of a document was loaded from such a value.
-/

namespace ContractCompiler

open Decode

namespace Yaml

/-! ## Readings that follow aliases -/

/-- If the reading succeeds, whatever was followed before, the result has the property. -/
def Ensured {α : Type} (x : Following α) (P : α → Prop) : Prop :=
  ∀ followed, Ensures (x followed) fun r => P r.1

namespace Ensured

variable {α β : Type} {x : Following α} {P : α → Prop}

theorem pure {a : α} (h : P a) : Ensured (Pure.pure a) P := fun _ => .ok h

theorem throw (e : Fault) : Ensured (MonadExcept.throw e : Following α) P := fun _ => .error e

theorem bind {S : β → Prop} {f : α → Following β} (hx : Ensured x P)
    (hf : ∀ a, P a → Ensured (f a) S) : Ensured (x >>= f) S :=
  fun followed => (hx followed).bind fun r hr => hf r.1 hr r.2

/-- Nothing is known of what the first reading gives. -/
theorem bind_any {S : β → Prop} {f : α → Following β} (hf : ∀ a, Ensured (f a) S) :
    Ensured (x >>= f) S :=
  bind (P := fun _ => True) (fun _ _ _ => trivial) fun a _ => hf a

theorem located {v : Value} (h : Ensured x P) : Ensured (v.located x) P := by
  intro followed
  have hx := h followed
  have hcatch : v.located x followed =
      tryCatch (x followed) fun f => MonadExcept.throw (f.locate v.path) := rfl
  rw [hcatch]
  cases hread : x followed with
  | error e => exact .error _
  | ok r => exact .ok (hx r hread)

theorem placed {v : Value} {result : Except Reason α} (h : ∀ a, result = .ok a → P a) :
    Ensured (v.placed result) P := by
  unfold Value.placed
  split
  · exact pure (h _ rfl)
  · exact throw _

end Ensured

/-! ## Values -/

theorem Meaning.hasDistinctKeys_of_toJson {text : String} {m : Meaning} {v : Json}
    (h : m.toJson text = .ok v) : v.HasDistinctKeys := by
  cases m with
  | integer i =>
    simp only [toJson] at h
    split at h
    · cases h
      trivial
    · cases h
  | null | bool | float | infinity | notANumber | text =>
    cases h
    trivial

theorem ensured_readItems {read : Value → Following Json}
    (h : ∀ v, Ensured (read v) Json.HasDistinctKeys) (items : List Value) :
    Ensured (readItems read items none) fun values => ∀ v ∈ values, v.HasDistinctKeys := by
  induction items with
  | nil => exact .pure fun _ hv => by cases hv
  | cons v rest ih =>
    refine (h v).bind fun a ha => ih.bind fun as has => .pure ?_
    exact List.forall_mem_cons.2 ⟨ha, has⟩

theorem ensured_members {read : Value → Following Json}
    (h : ∀ v, Ensured (read v) Json.HasDistinctKeys) (entries : List (Value × Value)) :
    ∀ expected, Ensured (Value.members read expected entries) fun members =>
      ∀ m ∈ members, m.2.HasDistinctKeys := by
  induction entries with
  | nil => exact fun _ => .pure fun _ hm => by cases hm
  | cons e rest ih =>
    intro expected
    refine .bind_any fun key => (h e.2).bind fun value hvalue => (ih "a string").bind fun _ hrest => ?_
    exact .pure (List.forall_mem_cons.2 ⟨hvalue, hrest⟩)

/-- A value holds no repeated keys when its contents do not. -/
theorem ensured_jsonWith {read : Value → Following Json}
    (h : ∀ v, Ensured (read v) Json.HasDistinctKeys) (v : Value) :
    Ensured (Value.jsonWith read v) Json.HasDistinctKeys := by
  refine .bind_any fun v => ?_
  split
  · exact .pure trivial
  · refine .bind_any fun _ => .bind_any fun m => .placed fun a ha => ?_
    exact Meaning.hasDistinctKeys_of_toJson ha
  · refine .bind_any fun _ => .bind_any fun items => ?_
    refine (ensured_readItems h items).located.bind fun values hvalues => .pure ?_
    exact Json.hasDistinctKeys_array.2 hvalues
  · refine .bind_any fun _ => .bind_any fun entries => ?_
    refine (ensured_members h entries "a string key").located.bind fun members hmembers => .pure ?_
    refine Json.hasDistinctKeys_object.2 ⟨Table.keys_ofEntries_nodup members, fun m hm => ?_⟩
    exact hmembers m (Table.mem_of_mem_ofEntries hm)

theorem ensured_jsonWithin (depth : Nat) :
    ∀ v, Ensured (Value.jsonWithin depth v) Json.HasDistinctKeys := by
  induction depth with
  | zero => exact ensured_jsonWith fun _ => .throw _
  | succ depth ih => exact ensured_jsonWith ih

/-- **No object in the value of a document repeats a key.** -/
theorem hasDistinctKeys_of_document {text : String} {v : Json}
    (h : Value.decode Value.toJson text = .ok v) : v.HasDistinctKeys := by
  unfold Value.decode at h
  split at h
  · cases h
  rename_i document _
  split at h
  · cases h
  rename_i a followed hread
  cases h
  exact ensured_jsonWithin document.depth document 0 _ hread

end Yaml

namespace Contract

/-- Each verdict on a document is the verdict on a part of its value. -/
theorem exists_value_of_loadAll {v : Json} (hv : v.HasDistinctKeys)
    {verdict : Except SchemaError Contract} (h : verdict ∈ loadAll v) :
    ∃ w : Json, w.HasDistinctKeys ∧ load w = verdict := by
  cases v with
  | array items =>
    obtain ⟨w, hw, rfl⟩ := List.mem_map.1 h
    exact ⟨w, Json.hasDistinctKeys_array.1 hv w hw, rfl⟩
  | null => cases h
  | bool | number | string | object => exact ⟨_, hv, (List.mem_singleton.1 h).symm⟩

/-- **A contract of a document was loaded from a value without repeated keys.** -/
theorem exists_value_of_document {text : String} {verdicts : List (Except SchemaError Contract)}
    (h : ofDocument text = .ok verdicts) {verdict : Except SchemaError Contract}
    (hmem : verdict ∈ verdicts) : ∃ v : Json, v.HasDistinctKeys ∧ load v = verdict := by
  unfold ofDocument at h
  split at h
  · cases h
  rename_i v hread
  cases h
  exact exists_value_of_loadAll (Yaml.hasDistinctKeys_of_document hread) hmem

end Contract

end ContractCompiler
