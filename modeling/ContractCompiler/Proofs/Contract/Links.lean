import Mathlib.Data.List.Nodup
import ContractCompiler.Contract.Check
import ContractCompiler.Proofs.Collection.Table
import ContractCompiler.Proofs.Contract.Check

/-!
# What resolved links hold

`Contract.linkTarget?` is the contract that a field's first link refers to.

* `exists_target_of_resolveFields` — every linked field of a resolved list has its target, and the
  last linked field of a key has the entry of that key.
* `get?_resolveLinks` — in a checked contract every linked field has an entry of its own, which names
  the model of its target; a field that is not linked has none.
-/

namespace ContractCompiler.Contract

variable {c : Contract} {contracts : List Contract}

/-- The contract that a field's first link refers to. -/
def linkTarget? (contracts : List Contract) (f : Field) : Option Contract :=
  match f.link with
  | [] => none
  | link :: _ => find? contracts link.contract

theorem mem_of_linkTarget? {f : Field} {t : Contract} (h : linkTarget? contracts f = some t) :
    t ∈ contracts := by
  unfold linkTarget? at h
  split at h
  · cases h
  · exact List.mem_of_find?_eq_some h

/-- The field's entry among the resolved links of its contract: none unless it is linked, and then
the model of its target. -/
def HasEntry (contracts : List Contract) (f : Field) (entry : Option LinkTarget) : Prop :=
  match f.link with
  | [] => entry = none
  | link :: _ => ∃ t, find? contracts link.contract = some t ∧
      entry = some ⟨t.modelName, link.array || f.isRepeated⟩

/-- A field has no entry exactly when it is not linked. -/
theorem HasEntry.eq_none_iff {f : Field} {entry : Option LinkTarget}
    (h : HasEntry contracts f entry) : entry = none ↔ f.link = [] := by
  unfold HasEntry at h
  split at h
  · rename_i hnil
    exact iff_of_true h hnil
  · rename_i link more hcons
    obtain ⟨t, -, rfl⟩ := h
    simp [hcons]

theorem resolveLink_eq_ok {f : Field} {link : Link} {target : LinkTarget}
    (h : c.resolveLink contracts f link = .ok target) :
    ∃ t, find? contracts link.contract = some t ∧
      target = ⟨t.modelName, link.array || f.isRepeated⟩ := by
  unfold resolveLink at h
  split at h
  · cases h
  · rename_i t ht
    refine ⟨t, ht, ?_⟩
    split at h
    · cases h
      rfl
    · split at h
      · cases h
        rfl
      · cases h

/-- Resolving fields keeps the entry of a key that no linked field among them has. -/
theorem get?_resolveFields_of_ne {key : String} {fields : List Field}
    (h : ∀ g ∈ fields, g.link ≠ [] → g.propertyKey ≠ key) :
    ∀ {links out : Table LinkTarget}, c.resolveFields contracts links fields = .ok out →
      out.get? key = links.get? key := by
  induction fields with
  | nil =>
    intro links out hout
    obtain rfl := Except.ok.inj hout
    rfl
  | cons g rest ih =>
    intro links out hout
    have hrest := fun k hk => h k (List.mem_cons_of_mem g hk)
    unfold resolveFields at hout
    split at hout
    · exact ih hrest hout
    · rename_i link more hlink
      split at hout
      · cases hout
      · have hne : g.propertyKey ≠ key :=
          h g List.mem_cons_self (by rw [hlink]; exact List.cons_ne_nil _ _)
        rw [ih hrest hout, Table.get?_put_of_ne (Ne.symm hne)]

/-- Every linked field of a resolved list has its target, which is the entry of its key unless a
later linked field has that key too. -/
theorem exists_target_of_resolveFields {before after : List Field} {f : Field} {link : Link}
    {more : List Link} (hlink : f.link = link :: more) :
    ∀ {links out : Table LinkTarget},
      c.resolveFields contracts links (before ++ f :: after) = .ok out →
      ∃ target, c.resolveLink contracts f link = .ok target ∧
        ((∀ g ∈ after, g.link ≠ [] → g.propertyKey ≠ f.propertyKey) →
          out.get? f.propertyKey = some target) := by
  induction before with
  | nil =>
    intro links out hout
    rw [List.nil_append, resolveFields, hlink] at hout
    dsimp only at hout
    split at hout
    · cases hout
    · rename_i target htarget
      refine ⟨target, htarget, fun hlast => ?_⟩
      rw [get?_resolveFields_of_ne hlast hout, Table.get?_put_self]
  | cons g rest ih =>
    intro links out hout
    rw [List.cons_append, resolveFields] at hout
    split at hout
    · exact ih hout
    · split at hout
      · cases hout
      · exact ih hout

/-- **Every linked field of a checked contract has an entry for the model of its target; a field
that is not linked has none.** -/
theorem get?_resolveLinks {links : Table LinkTarget} (hcheck : c.check = .ok ())
    (hlinks : c.resolveLinks contracts = .ok links) {f : Field} (hf : f ∈ c.fields) :
    HasEntry contracts f (links.get? f.propertyKey) := by
  have hsame : ∀ g ∈ c.fields, g.propertyKey = f.propertyKey → g = f := fun g hg h =>
    List.inj_on_of_nodup_map (nodup_of_check hcheck) hg hf h
  unfold HasEntry
  cases hlink : f.link with
  | nil =>
    refine get?_resolveFields_of_ne (fun g hg hlinked hkey => hlinked ?_) hlinks
    rw [hsame g hg hkey, hlink]
  | cons link more =>
    obtain ⟨before, after, hsplit⟩ := List.append_of_mem hf
    have hnodup := nodup_of_check hcheck
    rw [resolveLinks, hsplit] at hlinks
    rw [hsplit, List.map_append, List.map_cons] at hnodup
    obtain ⟨target, htarget, hentry⟩ := exists_target_of_resolveFields hlink hlinks
    obtain ⟨t, ht, rfl⟩ := resolveLink_eq_ok htarget
    refine ⟨t, ht, hentry fun g hg _ hkey => ?_⟩
    have hnot := (List.nodup_cons.1 (List.nodup_append.1 hnodup).2.1).1
    exact hnot (hkey ▸ List.mem_map_of_mem hg)

/-- The entry of a linked field names the model of the field's target. -/
theorem exists_target_of_entry {f : Field} {entry : Option LinkTarget}
    (h : HasEntry contracts f entry) (hlink : f.link ≠ []) :
    ∃ t, linkTarget? contracts f = some t ∧ ∃ many, entry = some ⟨t.modelName, many⟩ := by
  unfold HasEntry at h
  unfold linkTarget?
  split at h
  · rename_i hnil
    exact absurd hnil hlink
  · rename_i link tail hcons
    obtain ⟨t, ht, hentry⟩ := h
    exact ⟨t, ht, _, hentry⟩

/-- The model that a field's entry names is that of the field's target. -/
theorem map_model_of_entry {f : Field} {entry : Option LinkTarget} (h : HasEntry contracts f entry) :
    entry.map LinkTarget.model = (linkTarget? contracts f).map Contract.modelName := by
  unfold HasEntry at h
  unfold linkTarget?
  split at h
  · rw [h]
    rfl
  · obtain ⟨t, ht, rfl⟩ := h
    rw [ht]
    rfl

end ContractCompiler.Contract
