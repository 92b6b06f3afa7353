import ContractCompiler.Proofs.Module.Merge
import ContractCompiler.Proofs.Module.Placed

/-!
# Emission that records imports as it goes

A module is emitted with one import set at hand, and what a piece of code needs is recorded in it as
soon as it is known. `Recorder` is emission of that kind. Nothing undoes what was recorded before a
failure, so what may fail half-way is emitted with a set of its own, which is merged once it has
succeeded (`Recorder.apart`).

* `Makes.bind`, `Makes.bind_fails` — one step after another.
* `makes_mapM`, `fails_mapM` — a loop over parts, by induction: one failure anywhere is the failure
  of the loop.
* `Makes.apart`, `Fails.apart` — emission apart records what emission in place would have recorded,
  and nothing where it fails.
* `transactional` — emission that refuses or records names is a transaction on import sets.
-/

namespace ContractCompiler

/-- Emission with an import set at hand. What was recorded before a failure stays. -/
abbrev Recorder : Type → Type := EStateM EmissionError ImportSet

namespace Recorder

variable {α β : Type} {x : Recorder α} {f : α → Recorder β} {s : ImportSet}
  {coreImport : String} {a : α} {b : β} {e : EmissionError} {requests more : List ImportRequest}

/-- What emission makes. -/
def outcome (x : Recorder α) (s : ImportSet) : Except EmissionError α :=
  match x.run s with
  | .ok a _ => .ok a
  | .error e _ => .error e

/-- The import set after emission. -/
def after (x : Recorder α) (s : ImportSet) : ImportSet :=
  match x.run s with
  | .ok _ t => t
  | .error _ t => t

def request (r : ImportRequest) : Recorder Unit := modify (·.add r)

def requestAll (requests : List ImportRequest) : Recorder Unit := modify (·.addAll requests)

/-- Fails with the error unless the condition holds. -/
def require (condition : Bool) (e : EmissionError) : Recorder Unit :=
  if condition then pure () else throw e

/-- Records what a decoration needs. -/
def decorate (a : Decoration) : Recorder Decoration := do
  request a.request
  return a

/-- Emits with a set of its own, and merges that set once emission has succeeded. -/
def apart (coreImport : String) (x : Recorder α) : Recorder α := fun s =>
  match x.run (.empty coreImport) with
  | .ok a own => .ok a (s.merge own)
  | .error e _ => .error e s

/-! ## What emission makes and records -/

/-- With whatever set it starts, emission makes the code and records the requests. -/
def Makes (coreImport : String) (x : Recorder α) (a : α) (requests : List ImportRequest) : Prop :=
  ∀ s : ImportSet, s.coreImport = coreImport → x.run s = .ok a (s.addAll requests)

/-- With whatever set it starts, emission fails with the error. -/
def Fails (coreImport : String) (x : Recorder α) (e : EmissionError) : Prop :=
  ∀ s : ImportSet, s.coreImport = coreImport → ∃ t, x.run s = .error e t

/-- Emission fails with the error and leaves the set alone. -/
def Rejects (coreImport : String) (x : Recorder α) (e : EmissionError) : Prop :=
  ∀ s : ImportSet, s.coreImport = coreImport → x.run s = .error e s

theorem makes_pure : Makes coreImport (pure a) a [] := fun _ _ => rfl

theorem makes_request (r : ImportRequest) : Makes coreImport (request r) () [r] := fun _ _ => rfl

theorem makes_requestAll (requests : List ImportRequest) :
    Makes coreImport (requestAll requests) () requests := fun _ _ => rfl

theorem makes_require {condition : Bool} (h : condition = true) :
    Makes coreImport (require condition e) () [] := by
  rw [require, if_pos h]
  exact makes_pure

theorem rejects_throw : Rejects coreImport (throw e : Recorder α) e := fun _ _ => rfl

theorem rejects_require {condition : Bool} (h : condition = false) :
    Rejects coreImport (require condition e) e := by
  rw [require, if_neg (Bool.eq_false_iff.1 h)]
  exact rejects_throw

theorem Rejects.fails (hx : Rejects coreImport x e) : Fails coreImport x e := fun s hs => ⟨s, hx s hs⟩

/-- **One step after another** records the requests of both. -/
theorem Makes.bind (hx : Makes coreImport x a requests) (hf : Makes coreImport (f a) b more) :
    Makes coreImport (x >>= f) b (requests ++ more) := by
  intro s hs
  have hcore : (s.addAll requests).coreImport = coreImport :=
    (ImportSet.includes_addAll requests s).coreImport.trans hs
  rw [EStateM.run_bind, hx s hs, ImportSet.addAll_append]
  exact hf _ hcore

theorem Fails.bind (hx : Fails coreImport x e) : Fails coreImport (x >>= f) e := by
  intro s hs
  obtain ⟨t, ht⟩ := hx s hs
  exact ⟨t, by rw [EStateM.run_bind, ht]⟩

/-- A failure after a step that has recorded something. -/
theorem Makes.bind_fails (hx : Makes coreImport x a requests) (hf : Fails coreImport (f a) e) :
    Fails coreImport (x >>= f) e := by
  intro s hs
  have hcore : (s.addAll requests).coreImport = coreImport :=
    (ImportSet.includes_addAll requests s).coreImport.trans hs
  rw [EStateM.run_bind, hx s hs]
  exact hf _ hcore

theorem Rejects.bind (hx : Rejects coreImport x e) : Rejects coreImport (x >>= f) e := by
  intro s hs
  rw [EStateM.run_bind, hx s hs]

/-- A refusal after a step that has recorded nothing. -/
theorem Makes.bind_rejects (hx : Makes coreImport x a []) (hf : Rejects coreImport (f a) e) :
    Rejects coreImport (x >>= f) e := by
  intro s hs
  rw [EStateM.run_bind, hx s hs]
  exact hf s hs

theorem makes_decorate (a : Decoration) : Makes coreImport (decorate a) a [a.request] :=
  (makes_request a.request).bind makes_pure

/-- Names may be recorded in another order, and more than once. -/
theorem Makes.congr (hx : Makes coreImport x a requests) (hunordered : ∀ r ∈ more, r.Unordered)
    (h : ∀ r, r ∈ requests ↔ r ∈ more) : Makes coreImport x a more := fun s hs => by
  rw [hx s hs, ImportSet.addAll_congr (fun r hr => hunordered r ((h r).1 hr)) h]

/-- Recording apart and merging is recording directly. -/
theorem Makes.apart (hx : Makes coreImport x a requests) :
    Makes coreImport (apart coreImport x) a requests := by
  intro s hs
  show Recorder.apart coreImport x s = _
  rw [Recorder.apart, hx (.empty coreImport) rfl]
  show EStateM.Result.ok a (s.merge ((ImportSet.empty coreImport).addAll requests)) = _
  rw [ImportSet.addAll_eq_merge s, hs]

/-- **A failure of what is emitted apart leaves the set alone.** -/
theorem Fails.apart (hx : Fails coreImport x e) : Rejects coreImport (apart coreImport x) e := by
  intro s _
  obtain ⟨t, ht⟩ := hx (.empty coreImport) rfl
  show Recorder.apart coreImport x s = _
  rw [Recorder.apart, ht]

/-! ## Loops -/

section Loop

variable {γ : Type} {emit : γ → Except EmissionError β} {step : γ → Recorder β}
  {needs : β → List ImportRequest}

/-- **A loop records the requests of its parts in order.** -/
theorem makes_mapM (hstep : ∀ c b, emit c = .ok b → Makes coreImport (step c) b (needs b))
    {parts : List γ} {bs : List β} (h : parts.mapM emit = .ok bs) :
    Makes coreImport (parts.mapM step) bs (bs.flatMap needs) := by
  have hall := mapM_eq_ok_iff.1 h
  clear h
  induction hall with
  | nil => exact makes_pure
  | @cons c b rest bs hc _ ih =>
    rw [List.mapM_cons, List.flatMap_cons, ← List.append_nil (bs.flatMap needs)]
    exact (hstep c b hc).bind (ih.bind makes_pure)

/-- **A loop fails with the first of its parts that fails**, whatever the parts before it have
recorded. -/
theorem fails_mapM (hstep : ∀ c b, emit c = .ok b → Makes coreImport (step c) b (needs b))
    (hfail : ∀ c e, emit c = .error e → Fails coreImport (step c) e) {parts : List γ}
    (h : parts.mapM emit = .error e) : Fails coreImport (parts.mapM step) e := by
  induction parts with
  | nil => cases h
  | cons c rest ih =>
    rw [List.mapM_cons] at h ⊢
    cases hc : emit c with
    | error e' =>
      simp only [hc, bind, Except.bind, Except.error.injEq] at h
      subst h
      exact (hfail c _ hc).bind
    | ok b =>
      cases hrest : rest.mapM emit with
      | ok cs => simp [hc, hrest, bind, Except.bind, pure, Except.pure] at h
      | error e' =>
        simp only [hc, hrest, bind, Except.bind, Except.error.injEq] at h
        subst h
        exact (hstep c b hc).bind_fails (ih hrest).bind

end Loop

/-- A loop over parts that cannot fail. -/
theorem makes_mapM_pure {γ : Type} {step : γ → Recorder β} {make : γ → β}
    {needs : β → List ImportRequest}
    (hstep : ∀ c, Makes coreImport (step c) (make c) (needs (make c))) (parts : List γ) :
    Makes coreImport (parts.mapM step) (parts.map make) ((parts.map make).flatMap needs) := by
  have hparts : parts.mapM (fun c => (pure (make c) : Except EmissionError β)) =
      .ok (parts.map make) := List.mapM_pure
  refine makes_mapM (fun c b hb => ?_) hparts
  cases hb
  exact hstep c

theorem makes_mapM_self {γ : Type} {step : γ → Recorder γ} {needs : γ → List ImportRequest}
    (hstep : ∀ c, Makes coreImport (step c) c (needs c)) (parts : List γ) :
    Makes coreImport (parts.mapM step) parts (parts.flatMap needs) := by
  have h : Makes coreImport (parts.mapM step) (parts.map id) ((parts.map id).flatMap needs) :=
    makes_mapM_pure hstep parts
  rwa [List.map_id] at h

theorem makes_decorateAll (decorations : List Decoration) :
    Makes coreImport (decorations.mapM decorate) decorations
      (decorations.map Decoration.request) := by
  rw [List.map_eq_flatMap]
  exact makes_mapM_self makes_decorate decorations

/-- Records what a decoration needs, if it can be made. -/
def decorateChecked (r : Except EmissionError Decoration) : Recorder Decoration := do
  let a ← ofExcept r
  decorate a

section Checked

variable {γ : Type} {emit : γ → Except EmissionError Decoration} {parts : List γ}

theorem makes_decorateChecked (c : γ) (a : Decoration) (h : emit c = .ok a) :
    Makes coreImport (decorateChecked (emit c)) a [a.request] := by
  rw [h]
  exact makes_pure.bind (makes_decorate a)

theorem fails_decorateChecked (c : γ) (e : EmissionError) (h : emit c = .error e) :
    Fails coreImport (decorateChecked (emit c)) e := by
  rw [h]
  exact rejects_throw.bind.fails

theorem makes_decorateEach {decorations : List Decoration} (h : parts.mapM emit = .ok decorations) :
    Makes coreImport (parts.mapM fun c => decorateChecked (emit c)) decorations
      (decorations.map Decoration.request) := by
  rw [List.map_eq_flatMap]
  exact makes_mapM makes_decorateChecked h

theorem fails_decorateEach (h : parts.mapM emit = .error e) :
    Fails coreImport (parts.mapM fun c => decorateChecked (emit c)) e :=
  fails_mapM makes_decorateChecked fails_decorateChecked h

end Checked

end Recorder

/-! ## Transactions -/

/-- The set afterwards holds everything that the set held, whole modules and linked models are the
same, and what was recorded has been merged. -/
structure ImportSet.ExtendedBy (s recorded t : ImportSet) : Prop where
  includes : s.Includes t
  sources : ∀ source ∈ s.custom.keys, source ∈ t.custom.keys
  namespaces : t.namespaces = s.namespaces
  linked : t.linked = s.linked
  merged : t = s.merge recorded

namespace Recorder

variable {α : Type} {x : Recorder α} {coreImport : String} {result : Except EmissionError α}

/-- Emission is a transaction on import sets, with a result that does not depend on the set. It fails
and leaves the set as it was, or it succeeds and merges what it records when it starts with the empty
set. -/
structure Transactional (coreImport : String) (x : Recorder α) (result : Except EmissionError α) :
    Prop where
  outcome : ∀ s : ImportSet, s.coreImport = coreImport → x.outcome s = result
  failed : ∀ s : ImportSet, s.coreImport = coreImport → ∀ e, x.outcome s = .error e → x.after s = s
  succeeded : ∀ s : ImportSet, s.coreImport = coreImport → ∀ a, x.outcome s = .ok a →
    s.ExtendedBy (x.after (.empty coreImport)) (x.after s)

/-- Emission that refuses or records names is a transaction. -/
theorem transactional {needs : α → List ImportRequest}
    (hmakes : ∀ a, result = .ok a → Makes coreImport x a (needs a))
    (hrejects : ∀ e, result = .error e → Rejects coreImport x e)
    (hunordered : ∀ a, result = .ok a → ∀ r ∈ needs a, r.Unordered) :
    Transactional coreImport x result := by
  cases result with
  | error e =>
    have hrun (s : ImportSet) (hs : s.coreImport = coreImport) : x.run s = .error e s :=
      hrejects e rfl s hs
    constructor
    case outcome =>
      intro s hs
      rw [outcome, hrun s hs]
    case failed =>
      intro s hs _ _
      rw [after, hrun s hs]
    case succeeded =>
      intro s hs a ha
      rw [outcome, hrun s hs] at ha
      cases ha
  | ok a =>
    have hrun (s : ImportSet) (hs : s.coreImport = coreImport) :
        x.run s = .ok a (s.addAll (needs a)) := hmakes a rfl s hs
    have hafter (s : ImportSet) (hs : s.coreImport = coreImport) :
        x.after s = s.addAll (needs a) := by
      rw [after, hrun s hs]
    have hmerged (s : ImportSet) (hs : s.coreImport = coreImport) :
        s.addAll (needs a) = s.merge (x.after (.empty coreImport)) := by
      rw [hafter _ rfl, ← hs]
      exact ImportSet.addAll_eq_merge s (needs a)
    constructor
    case outcome =>
      intro s hs
      rw [outcome, hrun s hs]
    case failed =>
      intro s hs e he
      rw [outcome, hrun s hs] at he
      cases he
    case succeeded =>
      intro s hs _ _
      rw [hafter s hs]
      exact {
        includes := ImportSet.includes_addAll (needs a) s
        sources := fun source hsource => by
          rw [hmerged s hs]
          exact OrderedMap.mem_keys_mergeWith.2 (Or.inl hsource)
        namespaces := (ImportSet.ordered_addAll (hunordered a rfl)).1
        linked := (ImportSet.ordered_addAll (hunordered a rfl)).2
        merged := hmerged s hs }

end Recorder

end ContractCompiler
