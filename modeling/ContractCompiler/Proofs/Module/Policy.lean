import ContractCompiler.Proofs.Contract.Links
import ContractCompiler.Proofs.Module.Model

/-!
# Emission under a policy

A contract that is not well formed, or whose links cannot be resolved, is refused under every
policy. What is left to fail is the emission of one field or of one message: the strict policy ends
with the first such failure, the placeholder policy puts a comment in its place.

* `code_ne_unresolvedLink` — a field whose links are resolved never fails for want of a target.
* `emitModel_under_policy` — exactly when emission fails under each policy, and with what.
-/

namespace ContractCompiler

/-- The context with another emission policy. -/
def EmissionContext.under (ctx : EmissionContext) (policy : EmissionPolicy) : EmissionContext :=
  { ctx with policy := policy }

/-- The field can be emitted, given the models behind the linked fields of its contract. -/
def Field.Emits (f : Field) (ctx : EmissionContext) (links : Table LinkTarget) : Prop :=
  ∃ code, f.code ctx (links.get? f.propertyKey) = .ok code

/-- The message can be emitted. -/
def Message.Emits (m : Message) (ctx : EmissionContext) : Prop :=
  ∃ code, m.code ctx.capabilities = .ok code

namespace Contract

/-- Where emission under the strict policy ends: the contract is refused, or the first part that
fails is a field, or every field can be emitted and the first part that fails is a message. -/
inductive StrictFailure (c : Contract) (contracts : List Contract) (ctx : EmissionContext) :
    Failure → Prop where
  | refused {e : SchemaError} (h : c.Refused contracts e) : StrictFailure c contracts ctx (.schema e)
  | field {links : Table LinkTarget} {before after : List Field} {f : Field} {e : EmissionError}
      (hcheck : c.check = .ok ()) (hlinks : c.resolveLinks contracts = .ok links)
      (hfields : c.fields = before ++ f :: after) (hbefore : ∀ g ∈ before, g.Emits ctx links)
      (hf : f.code ctx (links.get? f.propertyKey) = .error e) :
      StrictFailure c contracts ctx (.emission e)
  | message {links : Table LinkTarget} {before after : List Message} {m : Message}
      {e : EmissionError} (hcheck : c.check = .ok ())
      (hlinks : c.resolveLinks contracts = .ok links) (hfields : ∀ f ∈ c.fields, f.Emits ctx links)
      (hmessages : c.messages = before ++ m :: after) (hbefore : ∀ n ∈ before, n.Emits ctx)
      (hm : m.code ctx.capabilities = .error e) : StrictFailure c contracts ctx (.emission e)

end Contract

/-! ## Missing targets -/

/-- The decorations that a contract asks for never fail for want of a target. -/
theorem Field.decorationsOf_ne_unresolvedLink {key : String} {t : Table Decorator}
    {e : EmissionError} (h : Field.decorationsOf key t = .error e) : e.cause ≠ .unresolvedLink := by
  induction t with
  | nil => cases h
  | cons d rest ih =>
    unfold decorationsOf at h
    split at h
    · split at h
      · rename_i hrest
        cases h
        exact ih hrest
      · cases h
    · cases h
      exact EmissionCause.noConfusion

/-- Validations never fail for want of a target. -/
theorem Validation.decorations_ne_unresolvedLink {key : String} {vs : List Validation}
    {e : EmissionError} (h : Validation.decorations key vs = .error e) :
    e.cause ≠ .unresolvedLink := by
  induction vs with
  | nil => cases h
  | cons v rest ih =>
    unfold decorations at h
    split at h
    · rename_i hv
      cases h
      unfold decoration at hv
      split at hv
      · cases hv
        exact EmissionCause.noConfusion
      · split at hv
        · cases hv
        · cases hv
          exact EmissionCause.noConfusion
    · split at h
      · rename_i hrest
        cases h
        exact ih hrest
      · cases h

/-- **A field that is not linked, or whose target is resolved, never fails for want of a target.** -/
theorem Field.code_ne_unresolvedLink {f : Field} {ctx : EmissionContext} {link : Option LinkTarget}
    {e : EmissionError} (hlink : f.link ≠ [] → link.isSome) (h : f.code ctx link = .error e) :
    e.cause ≠ .unresolvedLink := by
  unfold code at h
  split at h
  · cases h
    exact EmissionCause.noConfusion
  · split at h
    · rename_i hmissing
      simp only [Bool.and_eq_true, Bool.not_eq_true', List.isEmpty_eq_false_iff,
        Option.isNone_iff_eq_none] at hmissing
      have hsome := hlink hmissing.1
      rw [hmissing.2] at hsome
      cases hsome
    · split at h
      · rename_i hd
        cases h
        exact decorationsOf_ne_unresolvedLink hd
      · split at h
        · rename_i hv
          cases h
          exact Validation.decorations_ne_unresolvedLink hv
        · cases h

/-- Messages never fail for want of a target. -/
theorem Message.code_ne_unresolvedLink {m : Message} {capabilities : CapabilitySet}
    {e : EmissionError} (h : m.code capabilities = .error e) : e.cause ≠ .unresolvedLink := by
  unfold code at h
  split at h
  · cases h
    exact EmissionCause.noConfusion
  · split at h
    · cases h
      exact EmissionCause.noConfusion
    · cases h

/-! ## The two policies -/

namespace Contract

variable {c : Contract} {contracts : List Contract} {ctx : EmissionContext} {resolver : Resolver}

/-- **Under the placeholder policy only refusals are left.** -/
theorem emitModel_placeholder_eq_error_iff {e : Failure} :
    c.emitModel contracts (ctx.under .placeholder) resolver = .error e ↔
      ∃ s, c.Refused contracts s ∧ e = .schema s := by
  rw [emitModel_eq_error_iff, modelModule_eq_error_iff]
  constructor
  · rintro (h | ⟨links, -, -, ⟨s, hfields, -⟩ | ⟨fields, s, -, hmessages, -⟩⟩)
    · exact h
    · exact absurd hfields Placed.all_placeholder_ne_error
    · exact absurd hmessages Placed.all_placeholder_ne_error
  · exact Or.inl

/-- **The strict policy asks for every field and every message.** -/
theorem exists_emitModel_strict_iff :
    (∃ t, c.emitModel contracts (ctx.under .strict) resolver = .ok t) ↔
      ∃ links, c.check = .ok () ∧ c.resolveLinks contracts = .ok links ∧
        (∀ f ∈ c.fields, f.Emits ctx links) ∧ ∀ m ∈ c.messages, m.Emits ctx := by
  simp only [emitModel_eq_ok_iff, modelModule_eq_ok_iff]
  constructor
  · rintro ⟨_, m, ⟨links, fields, messages, hcheck, hlinks, hfields, hmessages, -⟩, -⟩
    exact ⟨links, hcheck, hlinks, (Placed.exists_all_strict_iff _).1 ⟨fields, hfields⟩,
      (Placed.exists_all_strict_iff _).1 ⟨messages, hmessages⟩⟩
  · rintro ⟨links, hcheck, hlinks, hf, hm⟩
    obtain ⟨fields, hfields⟩ := (Placed.exists_all_strict_iff Field.propertyKey).2 hf
    obtain ⟨messages, hmessages⟩ := (Placed.exists_all_strict_iff Message.name).2 hm
    exact ⟨_, _, ⟨links, fields, messages, hcheck, hlinks, hfields, hmessages, rfl⟩, rfl⟩

/-- **The strict policy ends with the first failure.** -/
theorem emitModel_strict_eq_error_iff {e : Failure} :
    c.emitModel contracts (ctx.under .strict) resolver = .error e ↔
      c.StrictFailure contracts ctx e := by
  rw [emitModel_eq_error_iff, modelModule_eq_error_iff]
  constructor
  · rintro (⟨s, hs, rfl⟩ |
      ⟨links, hcheck, hlinks, ⟨s, hfields, rfl⟩ | ⟨fields, s, hfields, hmessages, rfl⟩⟩)
    · exact .refused hs
    · obtain ⟨before, f, after, hsplit, hbefore, hf⟩ := Placed.all_strict_eq_error_iff.1 hfields
      exact .field hcheck hlinks hsplit hbefore hf
    · obtain ⟨before, m, after, hsplit, hbefore, hm⟩ := Placed.all_strict_eq_error_iff.1 hmessages
      exact .message hcheck hlinks ((Placed.exists_all_strict_iff _).1 ⟨fields, hfields⟩) hsplit hbefore hm
  · intro h
    cases h with
    | refused h => exact Or.inl ⟨_, h, rfl⟩
    | field hcheck hlinks hfields hbefore hf =>
      refine Or.inr ⟨_, hcheck, hlinks, Or.inl ⟨_, ?_, rfl⟩⟩
      exact Placed.all_strict_eq_error_iff.2 ⟨_, _, _, hfields, hbefore, hf⟩
    | message hcheck hlinks hfields hmessages hbefore hm =>
      obtain ⟨fields, hplaced⟩ :=
        (Placed.exists_all_strict_iff Field.propertyKey).2 hfields
      refine Or.inr ⟨_, hcheck, hlinks, Or.inr ⟨fields, _, hplaced, ?_, rfl⟩⟩
      exact Placed.all_strict_eq_error_iff.2 ⟨_, _, _, hmessages, hbefore, hm⟩

/-- **What the strict policy emits, the placeholder policy emits unchanged.** -/
theorem modelModule_placeholder_of_strict {m : ModelModule}
    (h : c.modelModule contracts (ctx.under .strict) resolver = .ok m) :
    c.modelModule contracts (ctx.under .placeholder) resolver = .ok m := by
  obtain ⟨links, fields, messages, hcheck, hlinks, hfields, hmessages, rfl⟩ :=
    modelModule_eq_ok_iff.1 h
  exact modelModule_eq_ok_iff.2 ⟨links, fields, messages, hcheck, hlinks,
    Placed.all_placeholder_of_strict hfields, Placed.all_placeholder_of_strict hmessages, rfl⟩

/-- With resolved links no field of the contract fails for want of a target. -/
theorem field_ne_unresolvedLink {links : Table LinkTarget} (hcheck : c.check = .ok ())
    (hlinks : c.resolveLinks contracts = .ok links) {f : Field} (hf : f ∈ c.fields)
    {e : EmissionError} (h : f.code ctx (links.get? f.propertyKey) = .error e) :
    e.cause ≠ .unresolvedLink := by
  refine Field.code_ne_unresolvedLink (fun hlink => ?_) h
  obtain ⟨t, -, many, hentry⟩ := exists_target_of_entry (get?_resolveLinks hcheck hlinks hf) hlink
  rw [hentry]
  rfl

theorem emission_error_ne_unresolvedLink {policy : EmissionPolicy} {e : EmissionError}
    (h : c.emitModel contracts (ctx.under policy) resolver = .error (.emission e)) :
    e.cause ≠ .unresolvedLink := by
  cases policy with
  | placeholder =>
    obtain ⟨s, -, hs⟩ := emitModel_placeholder_eq_error_iff.1 h
    cases hs
  | strict =>
    cases emitModel_strict_eq_error_iff.1 h with
    | field hcheck hlinks hfields hbefore hf =>
      exact field_ne_unresolvedLink hcheck hlinks (by rw [hfields]; simp) hf
    | message hcheck hlinks hfields hmessages hbefore hm => exact Message.code_ne_unresolvedLink hm

/-- No placeholder stands for a field without a target. -/
theorem omitted_ne_unresolvedLink {m : ModelModule}
    (h : c.modelModule contracts ctx resolver = .ok m) {name : String} {e : EmissionError}
    (homitted : .omitted name e ∈ m.classCode.fields ∨ .omitted name e ∈ m.messages) :
    e.cause ≠ .unresolvedLink := by
  obtain ⟨links, fields, messages, hcheck, hlinks, hfields, hmessages, rfl⟩ :=
    modelModule_eq_ok_iff.1 h
  rcases homitted with homitted | homitted
  · obtain ⟨f, hf, hcode⟩ := Placed.exists_of_mem_all hfields homitted
    exact field_ne_unresolvedLink hcheck hlinks hf (Placed.ofResult_eq_omitted hcode).1
  · obtain ⟨message, -, hcode⟩ := Placed.exists_of_mem_all hmessages homitted
    exact Message.code_ne_unresolvedLink (Placed.ofResult_eq_omitted hcode).1

/-- **Emission under both policies.** The placeholder policy fails only where the contract is
refused; the strict policy succeeds exactly when every part can be emitted and else ends with the
first failure; both give the same text where the strict policy succeeds; and a missing link target
is never the cause of a failure or of a placeholder. -/
theorem emitModel_under_policy (c : Contract) (contracts : List Contract) (ctx : EmissionContext)
    (resolver : Resolver) :
    (∀ e, c.emitModel contracts (ctx.under .placeholder) resolver = .error e ↔
      ∃ s, c.Refused contracts s ∧ e = .schema s) ∧
    ((∃ t, c.emitModel contracts (ctx.under .strict) resolver = .ok t) ↔
      ∃ links, c.check = .ok () ∧ c.resolveLinks contracts = .ok links ∧
        (∀ f ∈ c.fields, f.Emits ctx links) ∧ ∀ m ∈ c.messages, m.Emits ctx) ∧
    (∀ e, c.emitModel contracts (ctx.under .strict) resolver = .error e ↔
      c.StrictFailure contracts ctx e) ∧
    (∀ t, c.emitModel contracts (ctx.under .strict) resolver = .ok t →
      c.emitModel contracts (ctx.under .placeholder) resolver = .ok t) ∧
    ∀ policy,
      (∀ e, c.emitModel contracts (ctx.under policy) resolver = .error (.emission e) →
        e.cause ≠ .unresolvedLink) ∧
      ∀ m, c.modelModule contracts (ctx.under policy) resolver = .ok m → ∀ name e,
        (.omitted name e ∈ m.classCode.fields ∨ .omitted name e ∈ m.messages) →
          e.cause ≠ .unresolvedLink := by
  refine ⟨fun _ => emitModel_placeholder_eq_error_iff, exists_emitModel_strict_iff,
    fun _ => emitModel_strict_eq_error_iff, ?_, ?_⟩
  · intro t ht
    obtain ⟨m, hm, rfl⟩ := emitModel_eq_ok_iff.1 ht
    exact emitModel_eq_ok_iff.2 ⟨m, modelModule_placeholder_of_strict hm, rfl⟩
  · exact fun _ => ⟨fun _ => emission_error_ne_unresolvedLink,
      fun _ hm _ _ => omitted_ne_unresolvedLink hm⟩

end Contract

end ContractCompiler
