import Mathlib.Data.List.Forall2
import ContractCompiler.Module.Code

/-!
# Laws of placed parts

What `Placed.all` makes of a list of parts under each policy.

* `mapM_eq_ok_iff`, `all_eq_ok_iff` — success of a loop, and of a list under any policy, is pointwise.
* `mem_codes_iff` — what is emitted of a list is the code of its parts.
* `all_strict_eq_ok_iff` — the strict policy leaves no part out.
* `all_strict_eq_error_iff` — the strict policy ends with the first failure, and only then fails.
* `all_eq_error_congr` — a list fails as its parts fail, under any policy.
* `exists_all_placeholder` — the placeholder policy never fails.
* `all_placeholder_of_strict` — what the strict policy accepts, the placeholder policy accepts
  unchanged.
-/

namespace ContractCompiler

/-- Of two lists that match, each member of the first has a match in the second. -/
theorem exists_of_forall₂ {α β : Type} {R : α → β → Prop} {as : List α} {bs : List β}
    (h : List.Forall₂ R as bs) : ∀ a ∈ as, ∃ b ∈ bs, R a b := by
  induction h with
  | nil => simp
  | cons hab _ ih =>
    refine List.forall_mem_cons.2 ⟨⟨_, List.mem_cons_self, hab⟩, fun a ha => ?_⟩
    obtain ⟨b, hb, hab⟩ := ih a ha
    exact ⟨b, List.mem_cons_of_mem _ hb, hab⟩

/-- **A loop succeeds exactly with one result for each part.** -/
theorem mapM_eq_ok_iff {β γ : Type} {emit : γ → Except EmissionError β} {parts : List γ}
    {bs : List β} :
    parts.mapM emit = .ok bs ↔ List.Forall₂ (fun c b => emit c = .ok b) parts bs := by
  induction parts generalizing bs with
  | nil => simp [pure, Except.pure, eq_comm]
  | cons c rest ih =>
    rw [List.mapM_cons]
    cases hc : emit c with
    | error e => cases bs <;> simp [bind, Except.bind, hc]
    | ok b =>
      cases hrest : rest.mapM emit with
      | error e =>
        cases bs with
        | nil => simp [bind, Except.bind]
        | cons b' bs' => simp [bind, Except.bind, ← ih, hrest]
      | ok cs =>
        cases bs with
        | nil => simp [bind, Except.bind, pure, Except.pure]
        | cons b' bs' => simp [bind, Except.bind, pure, Except.pure, ← ih, hrest, hc]

namespace Placed

variable {α β : Type} {name : β → String} {emit : β → Except EmissionError α}

/-- Emission of a list is a loop over its parts. -/
theorem all_eq_mapM {policy : EmissionPolicy} (parts : List β) :
    all policy name emit parts = parts.mapM fun b => ofResult policy (name b) (emit b) := by
  induction parts with
  | nil => rfl
  | cons b rest ih =>
    rw [List.mapM_cons, ← ih, all]
    cases ofResult policy (name b) (emit b) with
    | error => rfl
    | ok => cases all policy name emit rest <;> rfl

/-- **Emission of a list succeeds exactly with one result for each part.** -/
theorem all_eq_ok_iff {policy : EmissionPolicy} {parts : List β} {placed : List (Placed α)} :
    all policy name emit parts = .ok placed ↔
      List.Forall₂ (fun b p => ofResult policy (name b) (emit b) = .ok p) parts placed := by
  rw [all_eq_mapM, mapM_eq_ok_iff]

/-- A placed part comes from a part of the list. -/
theorem exists_of_mem_all {policy : EmissionPolicy} {parts : List β} {placed : List (Placed α)}
    (h : all policy name emit parts = .ok placed) {p : Placed α} (hp : p ∈ placed) :
    ∃ b ∈ parts, ofResult policy (name b) (emit b) = .ok p :=
  exists_of_forall₂ (all_eq_ok_iff.1 h).flip p hp

theorem eq_emitted_of_code? {p : Placed α} {a : α} (h : p.code? = some a) : p = emitted a := by
  cases p with
  | emitted b =>
    cases h
    rfl
  | omitted => cases h

theorem ofResult_eq_emitted {policy : EmissionPolicy} {n : String} {r : Except EmissionError α}
    {a : α} (h : ofResult policy n r = .ok (emitted a)) : r = .ok a := by
  cases r with
  | ok a' =>
    simp only [ofResult, Except.ok.injEq, emitted.injEq] at h
    rw [h]
  | error e => cases policy <;> simp [ofResult] at h

/-- The code of an emitted part is that of a part of the list. -/
theorem exists_of_mem_codes {policy : EmissionPolicy} {parts : List β} {placed : List (Placed α)}
    (h : all policy name emit parts = .ok placed) {a : α} (ha : a ∈ placed.filterMap code?) :
    ∃ b ∈ parts, emit b = .ok a := by
  obtain ⟨p, hp, hcode⟩ := List.mem_filterMap.1 ha
  obtain rfl := eq_emitted_of_code? hcode
  obtain ⟨b, hb, hresult⟩ := exists_of_mem_all h hp
  exact ⟨b, hb, ofResult_eq_emitted hresult⟩

/-- The codes of a list are those of the parts that can be emitted. -/
theorem mem_codes_iff {policy : EmissionPolicy} {parts : List β} {placed : List (Placed α)}
    (h : all policy name emit parts = .ok placed) {a : α} :
    a ∈ placed.filterMap code? ↔ ∃ b ∈ parts, emit b = .ok a := by
  refine ⟨exists_of_mem_codes h, ?_⟩
  rintro ⟨b, hb, ha⟩
  obtain ⟨p, hp, hresult⟩ := exists_of_forall₂ (all_eq_ok_iff.1 h) b hb
  rw [ha] at hresult
  cases hresult
  exact List.mem_filterMap.2 ⟨_, hp, rfl⟩

theorem ofResult_eq_omitted {policy : EmissionPolicy} {n m : String} {r : Except EmissionError α}
    {e : EmissionError} (h : ofResult policy n r = .ok (omitted m e)) : r = .error e ∧ m = n := by
  cases r with
  | ok a => simp [ofResult] at h
  | error e' =>
    cases policy with
    | strict => simp [ofResult] at h
    | placeholder =>
      simp only [ofResult, Except.ok.injEq, omitted.injEq] at h
      exact ⟨by rw [h.2], h.1.symm⟩

/-! ## The placeholder policy -/

/-- **The placeholder policy accepts every list.** -/
theorem exists_all_placeholder (name : β → String) (emit : β → Except EmissionError α)
    (parts : List β) :
    ∃ placed, all .placeholder name emit parts = .ok placed := by
  induction parts with
  | nil => exact ⟨[], rfl⟩
  | cons b rest ih =>
    obtain ⟨ps, hps⟩ := ih
    cases hb : emit b with
    | ok a => exact ⟨emitted a :: ps, by simp [all, hb, ofResult, hps]⟩
    | error e => exact ⟨omitted (name b) e :: ps, by simp [all, hb, ofResult, hps]⟩

theorem all_placeholder_ne_error {parts : List β} {e : EmissionError} :
    all .placeholder name emit parts ≠ .error e := by
  obtain ⟨placed, h⟩ := exists_all_placeholder name emit parts
  intro he
  rw [h] at he
  cases he

/-- **What the strict policy accepts, the placeholder policy accepts unchanged.** -/
theorem all_placeholder_of_strict {parts : List β} {placed : List (Placed α)}
    (h : all .strict name emit parts = .ok placed) :
    all .placeholder name emit parts = .ok placed := by
  refine all_eq_ok_iff.2 ((all_eq_ok_iff.1 h).imp ?_)
  intro b p hb
  cases hr : emit b with
  | ok a => simpa [ofResult, hr] using hb
  | error e => simp [ofResult, hr] at hb

/-! ## The strict policy -/

/-- **What the strict policy accepts holds the code of every part**, in the order of the parts. -/
theorem all_strict_eq_ok_iff {parts : List β} {placed : List (Placed α)} :
    all .strict name emit parts = .ok placed ↔
      ∃ codes, List.Forall₂ (fun b a => emit b = .ok a) parts codes ∧
        placed = codes.map emitted := by
  rw [all_eq_ok_iff]
  constructor
  · intro h
    induction h with
    | nil => exact ⟨[], .nil, rfl⟩
    | @cons b p _ _ hb _ ih =>
      obtain ⟨codes, hcodes, rfl⟩ := ih
      cases hr : emit b with
      | ok a =>
        rw [hr] at hb
        cases hb
        exact ⟨a :: codes, .cons hr hcodes, rfl⟩
      | error e =>
        rw [hr] at hb
        cases hb
  · rintro ⟨codes, hcodes, rfl⟩
    rw [List.forall₂_map_right_iff]
    refine hcodes.imp fun b a hb => ?_
    rw [hb]
    rfl

/-- The strict policy accepts a list exactly when every part can be emitted. -/
theorem exists_all_strict_iff (name : β → String) {parts : List β} :
    (∃ placed, all .strict name emit parts = .ok placed) ↔ ∀ b ∈ parts, ∃ a, emit b = .ok a := by
  induction parts with
  | nil => simp [all]
  | cons b rest ih =>
    rw [List.forall_mem_cons, ← ih]
    cases hb : emit b with
    | error e => simp [all, ofResult, hb]
    | ok a =>
      simp only [all, ofResult, hb, Except.ok.injEq, exists_eq', true_and]
      constructor
      · rintro ⟨placed, h⟩
        split at h
        · cases h
        · rename_i ps hps
          exact ⟨ps, hps⟩
      · rintro ⟨ps, hps⟩
        exact ⟨emitted a :: ps, by rw [hps]⟩

/-- A list can be emitted unless the policy is strict and one of its parts fails. -/
theorem exists_all_iff {policy : EmissionPolicy} (name : β → String) {parts : List β} :
    (∃ placed, all policy name emit parts = .ok placed) ↔
      (policy = .strict → ∀ b ∈ parts, ∃ a, emit b = .ok a) := by
  cases policy with
  | strict => simpa using exists_all_strict_iff name
  | placeholder => simpa using exists_all_placeholder name emit parts

/-- **The strict policy ends with the error of the first part that fails.** -/
theorem all_strict_eq_error_iff {parts : List β} {e : EmissionError} :
    all .strict name emit parts = .error e ↔
      ∃ before b after, parts = before ++ b :: after ∧ (∀ x ∈ before, ∃ a, emit x = .ok a) ∧
        emit b = .error e := by
  induction parts with
  | nil => simp [all]
  | cons b rest ih =>
    cases hb : emit b with
    | error e' =>
      simp only [all, ofResult, hb, Except.error.injEq]
      constructor
      · rintro rfl
        exact ⟨[], b, rest, rfl, by simp, hb⟩
      · rintro ⟨before, x, after, hparts, hbefore, hx⟩
        rcases List.cons_eq_append_iff.1 hparts with ⟨rfl, h⟩ | ⟨before', rfl, -⟩
        · cases h
          rw [hb] at hx
          exact Except.error.inj hx
        · obtain ⟨a, ha⟩ := hbefore b List.mem_cons_self
          rw [hb] at ha
          cases ha
    | ok a =>
      have hstep : all .strict name emit (b :: rest) = .error e ↔
          all .strict name emit rest = .error e := by
        simp only [all, ofResult, hb]
        split <;> simp_all
      rw [hstep, ih]
      constructor
      · rintro ⟨before, x, after, rfl, hbefore, hx⟩
        refine ⟨b :: before, x, after, rfl, ?_, hx⟩
        exact List.forall_mem_cons.2 ⟨⟨a, hb⟩, hbefore⟩
      · rintro ⟨before, x, after, hparts, hbefore, hx⟩
        rcases List.cons_eq_append_iff.1 hparts with ⟨rfl, h⟩ | ⟨before', rfl, rfl⟩
        · cases h
          rw [hb] at hx
          cases hx
        · exact ⟨before', x, after, rfl, (List.forall_mem_cons.1 hbefore).2, hx⟩

/-- Two ways to emit the parts that fail alike for each part fail alike for the list. -/
theorem all_eq_error_congr {policy : EmissionPolicy} {emit' : β → Except EmissionError α}
    (h : ∀ b e, emit b = .error e ↔ emit' b = .error e) {parts : List β} {e : EmissionError} :
    all policy name emit parts = .error e ↔ all policy name emit' parts = .error e := by
  have hok (b : β) : (∃ a, emit b = .ok a) ↔ ∃ a, emit' b = .ok a := by
    cases hb : emit b with
    | error e' => simp [(h b e').1 hb]
    | ok a =>
      cases hb' : emit' b with
      | error e' => simp [(h b e').2 hb'] at hb
      | ok a' => simp
  cases policy with
  | placeholder => exact iff_of_false all_placeholder_ne_error all_placeholder_ne_error
  | strict => simp only [all_strict_eq_error_iff, hok, h]

end Placed

end ContractCompiler
