import ContractCompiler.Proofs.Module.Binding
import ContractCompiler.Proofs.Module.Recorder

/-!
# Recording what fields, messages and modules need

The emission of a contract step by step, with the import set that it records into. A field checks its
key and its link and emits everything else apart; a message checks all its names before it records
anything. Both have the outcomes of `Field.code` and `Message.code`.

* `Field.makes_record`, `Message.makes_record` — what is recorded is what the code asks for.
* `Field.rejects_record`, `Message.rejects_record` — a failure leaves the set alone.
* `Contract.recordModule_eq` — emission that records as it goes gives the module, imports and all.
* `transactional_record` — a field or a message fails and leaves the set alone, or succeeds and
  merges what it needs.
-/

namespace ContractCompiler

/-! ## Fields -/

namespace Field

open Recorder

/-- A decoration that the contract asks for; its name has to be an identifier. -/
def givenDecoration (key : String) (d : String × Decorator) : Except EmissionError Decoration :=
  if Text.isIdentifier d.1 then
    .ok ⟨.custom d.2.source, d.1, match d.2.options with
      | some options => options.compact
      | none => ""⟩
  else .error ⟨key, .badDecoration d.1⟩

/-- A decoration of a callback, which needs the table of callbacks as well. -/
def decorateCallback (a : Decoration) : Recorder Decoration := do
  request (.core "Callbacks")
  decorate a

/-- What the declared type of a field needs. -/
def typeNeeds (ctx : EmissionContext) : Option LinkTarget → List ImportRequest
  | some target => if ctx.usesDocumentIdentity target.model then [.storage] else []
  | none => []

/-- The code of a field around the decorations that it gives and its validations. -/
def memberAround (f : Field) (ctx : EmissionContext) (link : Option LinkTarget)
    (decorators validations : List Decoration) : MemberCode where
  decorations :=
    [f.exposure] ++ f.constraints ++ decorators ++ validations ++
      f.documentation ctx.capabilities (f.docType link) ++ f.callbacks
  declaration := ⟨f.propertyKey, f.isOptional, f.memberType ctx link, f.initial⟩
  needs := f.extraNeeds ctx link

/-- The decorations and the declaration of a field, recording as it goes. -/
def recordMember (f : Field) (ctx : EmissionContext) (link : Option LinkTarget) :
    Recorder MemberCode := do
  let exposure ← decorate f.exposure
  let constraints ← f.constraints.mapM decorate
  let decorators ← f.decorators.mapM fun d => decorateChecked (givenDecoration f.propertyKey d)
  let validations ← f.validations.mapM fun v => decorateChecked (v.decoration f.propertyKey)
  let documentation ← (f.documentation ctx.capabilities (f.docType link)).mapM decorate
  let callbacks ← f.callbacks.mapM decorateCallback
  requestAll (typeNeeds ctx link)
  return {
    decorations :=
      [exposure] ++ constraints ++ decorators ++ validations ++ documentation ++ callbacks
    declaration := ⟨f.propertyKey, f.isOptional, f.memberType ctx link, f.initial⟩
    needs := f.extraNeeds ctx link }

/-- The emission of a field: two checks, and everything else with a set of its own. -/
def record (f : Field) (ctx : EmissionContext) (link : Option LinkTarget) : Recorder MemberCode := do
  require (Text.isIdentifier f.propertyKey) ⟨f.propertyKey, .invalidPropertyKey⟩
  require (f.link.isEmpty || link.isSome) ⟨f.propertyKey, .unresolvedLink⟩
  apart ctx.coreImport (f.recordMember ctx link)

variable {f : Field} {ctx : EmissionContext} {link : Option LinkTarget} {code : MemberCode}
  {e : EmissionError}

theorem decorationsOf_eq_mapM (key : String) (t : Table Decorator) :
    decorationsOf key t = t.mapM (givenDecoration key) := by
  induction t with
  | nil => rfl
  | cons d rest ih =>
    obtain ⟨name, decorator⟩ := d
    rw [List.mapM_cons, ← ih, decorationsOf, givenDecoration]
    split
    · cases decorationsOf key rest <;> rfl
    · rfl

end Field

theorem Validation.decorations_eq_mapM (key : String) (vs : List Validation) :
    Validation.decorations key vs = vs.mapM (Validation.decoration key) := by
  induction vs with
  | nil => rfl
  | cons v rest ih =>
    rw [List.mapM_cons, ← ih, Validation.decorations]
    cases v.decoration key with
    | error => rfl
    | ok => cases Validation.decorations key rest <;> rfl

/-- Emission asks for names only, of its own accord. -/
theorem unordered_of_mem_ownRequests : ∀ r ∈ ownRequests, r.Unordered := by
  simp [ownRequests, ImportRequest.Unordered]

namespace Field

open Recorder

variable {f : Field} {ctx : EmissionContext} {link : Option LinkTarget} {code : MemberCode}
  {e : EmissionError}

/-- A field with a callback needs the table of callbacks. -/
theorem extraNeeds_eq : f.extraNeeds ctx link =
    (if f.callbacks = [] then [] else [.core "Callbacks"]) ++ typeNeeds ctx link := by
  have hcallbacks : f.callbacks = [] ↔ ¬(f.transform.isSome || f.toPlain.isSome) = true := by
    unfold callbacks
    cases f.transform <;> cases f.toPlain <;> simp [callback]
  unfold extraNeeds
  simp only [hcallbacks, ite_not]
  cases link <;> rfl

/-- A field asks for names only. -/
theorem unordered_of_code (h : f.code ctx link = .ok code) : ∀ r ∈ code.requests, r.Unordered := by
  intro r hr
  rcases own_or_given_of_code h hr with hr | ⟨v, -, name, -, rfl⟩ | ⟨d, -, rfl⟩
  · exact unordered_of_mem_ownRequests r hr
  · trivial
  · trivial

/-- Recording as it goes, a field with several callbacks asks for their table each time. -/
theorem mem_callbacks_needs {r : ImportRequest} :
    r ∈ f.callbacks.flatMap (fun a => [.core "Callbacks", a.request]) ↔
      (f.callbacks ≠ [] ∧ r = .core "Callbacks") ∨ r ∈ f.callbacks.map Decoration.request := by
  cases f.callbacks with
  | nil => simp
  | cons a rest =>
    simp only [List.mem_flatMap, List.mem_cons, List.not_mem_nil, or_false, List.mem_map, ne_eq,
      reduceCtorEq, not_false_eq_true, true_and]
    constructor
    · rintro ⟨b, hb, rfl | rfl⟩
      · exact Or.inl rfl
      · exact Or.inr ⟨b, hb, rfl⟩
    · rintro (rfl | ⟨b, hb, rfl⟩)
      · exact ⟨a, Or.inl rfl, Or.inl rfl⟩
      · exact ⟨b, hb, Or.inr rfl⟩

theorem makes_recordMember {decorators validations : List Decoration}
    (hcode : f.code ctx link = .ok (f.memberAround ctx link decorators validations))
    (hd : f.decorators.mapM (givenDecoration f.propertyKey) = .ok decorators)
    (hv : f.validations.mapM (Validation.decoration f.propertyKey) = .ok validations) :
    Makes ctx.coreImport (f.recordMember ctx link) (f.memberAround ctx link decorators validations)
      (f.memberAround ctx link decorators validations).requests := by
  have hcallback (a : Decoration) : Makes ctx.coreImport (decorateCallback a) a
      [.core "Callbacks", a.request] := (makes_request _).bind (makes_decorate a)
  have hsteps : Makes ctx.coreImport (f.recordMember ctx link)
      (f.memberAround ctx link decorators validations)
      ([f.exposure.request] ++ (f.constraints.map Decoration.request ++
        (decorators.map Decoration.request ++ (validations.map Decoration.request ++
          ((f.documentation ctx.capabilities (f.docType link)).map Decoration.request ++
            (f.callbacks.flatMap (fun a => [.core "Callbacks", a.request]) ++
              (typeNeeds ctx link ++ []))))))) :=
    (makes_decorate f.exposure).bind <| (makes_decorateAll f.constraints).bind <|
    (makes_decorateEach hd).bind <| (makes_decorateEach hv).bind <|
    (makes_decorateAll (f.documentation ctx.capabilities (f.docType link))).bind <|
    (makes_mapM_self hcallback f.callbacks).bind <| (makes_requestAll (typeNeeds ctx link)).bind <|
    makes_pure
  refine hsteps.congr (unordered_of_code hcode) fun r => ?_
  simp only [MemberCode.requests, memberAround, extraNeeds_eq, List.map_append, List.mem_append,
    mem_callbacks_needs, List.map_cons, List.map_nil, List.append_nil, List.mem_ite_nil_left,
    List.mem_singleton, or_assoc, ne_eq]
  tauto

/-- A field is checked twice before it records anything, and its decorations may fail afterwards. -/
theorem code_cases (f : Field) (ctx : EmissionContext) (link : Option LinkTarget) :
    (Text.isIdentifier f.propertyKey = false ∧
      f.code ctx link = .error ⟨f.propertyKey, .invalidPropertyKey⟩) ∨
    (Text.isIdentifier f.propertyKey = true ∧ (f.link.isEmpty || link.isSome) = false ∧
      f.code ctx link = .error ⟨f.propertyKey, .unresolvedLink⟩) ∨
    (Text.isIdentifier f.propertyKey = true ∧ (f.link.isEmpty || link.isSome) = true ∧
      f.code ctx link = do
        let decorators ← f.decorators.mapM (givenDecoration f.propertyKey)
        let validations ← f.validations.mapM (Validation.decoration f.propertyKey)
        return f.memberAround ctx link decorators validations) := by
  have hlink : (!f.link.isEmpty && link.isNone) = !(f.link.isEmpty || link.isSome) := by
    cases f.link.isEmpty <;> cases link <;> rfl
  rw [← decorationsOf_eq_mapM, ← Validation.decorations_eq_mapM, Field.code, hlink]
  cases Text.isIdentifier f.propertyKey with
  | false => exact Or.inl ⟨rfl, rfl⟩
  | true =>
    cases f.link.isEmpty || link.isSome with
    | false => exact Or.inr (Or.inl ⟨rfl, rfl, rfl⟩)
    | true =>
      refine Or.inr (Or.inr ⟨rfl, rfl, ?_⟩)
      cases decorationsOf f.propertyKey f.decorators with
      | error e => rfl
      | ok decorators => cases Validation.decorations f.propertyKey f.validations <;> rfl

/-- A field can be emitted exactly when it passes its checks and its decorations can be made. -/
theorem code_eq_ok_iff :
    f.code ctx link = .ok code ↔
      Text.isIdentifier f.propertyKey = true ∧ (f.link.isEmpty || link.isSome) = true ∧
        ∃ decorators validations,
          f.decorators.mapM (givenDecoration f.propertyKey) = .ok decorators ∧
          f.validations.mapM (Validation.decoration f.propertyKey) = .ok validations ∧
          code = f.memberAround ctx link decorators validations := by
  rcases code_cases f ctx link with ⟨hkey, hcode⟩ | ⟨hkey, hlink, hcode⟩ | ⟨hkey, hlink, hcode⟩
  · simp [hkey, hcode]
  · simp [hlink, hcode]
  · rw [hcode]
    cases hd : f.decorators.mapM (givenDecoration f.propertyKey) with
    | error e => simp [bind, Except.bind]
    | ok decorators =>
      cases hv : f.validations.mapM (Validation.decoration f.propertyKey) with
      | error e => simp [bind, Except.bind]
      | ok validations => simp [bind, Except.bind, pure, Except.pure, hkey, hlink, eq_comm]

/-- **A field records what its code asks for.** -/
theorem makes_record (h : f.code ctx link = .ok code) :
    Makes ctx.coreImport (f.record ctx link) code code.requests := by
  obtain ⟨hkey, hlink, decorators, validations, hd, hv, rfl⟩ := code_eq_ok_iff.1 h
  exact (makes_require hkey).bind ((makes_require hlink).bind (makes_recordMember h hd hv).apart)

/-- **A field that cannot be emitted leaves the set alone**, whichever check or loop it fails in. -/
theorem rejects_record (h : f.code ctx link = .error e) :
    Rejects ctx.coreImport (f.record ctx link) e := by
  rcases code_cases f ctx link with ⟨hkey, hcode⟩ | ⟨hkey, hlink, hcode⟩ | ⟨hkey, hlink, hcode⟩
  · rw [hcode] at h
    cases h
    exact (rejects_require hkey).bind
  · rw [hcode] at h
    cases h
    exact (makes_require hkey).bind_rejects (rejects_require hlink).bind
  · rw [hcode] at h
    refine (makes_require hkey).bind_rejects ((makes_require hlink).bind_rejects (Fails.apart ?_))
    refine (makes_decorate f.exposure).bind_fails ((makes_decorateAll f.constraints).bind_fails ?_)
    cases hd : f.decorators.mapM (givenDecoration f.propertyKey) with
    | error e' =>
      simp only [hd, bind, Except.bind, Except.error.injEq] at h
      subst h
      exact (fails_decorateEach hd).bind
    | ok decorators =>
      refine (makes_decorateEach hd).bind_fails ?_
      cases hv : f.validations.mapM (Validation.decoration f.propertyKey) with
      | ok validations => simp [hd, hv, bind, Except.bind, pure, Except.pure] at h
      | error e' =>
        simp only [hd, hv, bind, Except.bind, Except.error.injEq] at h
        subst h
        exact (fails_decorateEach hv).bind

/-- The name of the first decoration is taken back with the failure of the second. -/
example :
    let f := { Field.plain "name" (.known .string) with
      decorators := [("Trim", ⟨"@lib/text", none⟩), ("to upper", ⟨"@lib/text", none⟩)] }
    (f.record Contract.fullContext none).run (.empty "@contractc/core") =
      .error ⟨"name", .badDecoration "to upper"⟩ (.empty "@contractc/core") := rfl

end Field

/-! ## Messages -/

namespace Message

open Recorder

/-- What the decorations of a property need besides its exposure. -/
def propertyNeeds (capabilities : CapabilitySet) : List ImportRequest :=
  if capabilities.openapi then [.openapi "ApiProperty"] else []

/-- A property in the class of its message, recording as it goes. -/
def recordProperty (capabilities : CapabilitySet) (p : String × Property) : Recorder MemberCode := do
  requestAll (propertyNeeds capabilities)
  return p.2.code capabilities p.1

/-- The names of properties have to be identifiers. -/
def checkProperty (m : Message) (p : String × Property) : Recorder Unit :=
  require (Text.isIdentifier p.1) ⟨p.1, .invalidMessageProperty m.name⟩

/-- The emission of a message, recording as it goes: everything is checked first. -/
def record (m : Message) (capabilities : CapabilitySet) : Recorder MessageCode := do
  require (Text.isIdentifier m.name) ⟨m.name, .invalidMessageName⟩
  forM m.properties m.checkProperty
  requestAll [.transformer "Expose", .transformer "instanceToPlain", .transformer "plainToInstance"]
  let classMembers ← m.properties.mapM (recordProperty capabilities)
  return {
    interfaceName := m.name
    className := m.className
    interfaceMembers := m.properties.map fun p => p.2.interfaceMember p.1
    classMembers := classMembers }

variable {m : Message} {capabilities : CapabilitySet} {code : MessageCode} {e : EmissionError}
  {coreImport : String}

/-- The check of all properties passes, or stops at the first one whose name is no identifier. -/
theorem check_properties (coreImport : String) (m : Message) (properties : Table Property) :
    match properties.find? fun p => !Text.isIdentifier p.1 with
    | none => Makes coreImport (forM properties m.checkProperty) () []
    | some p => Rejects coreImport (forM properties m.checkProperty)
        ⟨p.1, .invalidMessageProperty m.name⟩ := by
  induction properties with
  | nil => exact makes_pure
  | cons p rest ih =>
    rw [List.forM_cons]
    cases hkey : Text.isIdentifier p.1 with
    | false =>
      rw [List.find?_cons_of_pos (by simp [hkey])]
      exact (rejects_require hkey).bind
    | true =>
      rw [List.find?_cons_of_neg (by simp [hkey])]
      have hp : Makes coreImport (m.checkProperty p) () [] := makes_require hkey
      revert ih
      split
      · exact fun hrest => hp.bind hrest
      · exact fun hrest => hp.bind_rejects hrest

theorem mem_requests_property {p : String × Property} {r : ImportRequest} :
    r ∈ (p.2.code capabilities p.1).requests ↔
      r ∈ propertyNeeds capabilities ∨ r = .transformer "Expose" := by
  unfold Property.code MemberCode.requests propertyNeeds
  split <;> simp [Decoration.request, Decoration.apiProperty, Decoration.expose]

/-- **A message records what its code asks for.** -/
theorem makes_record (h : m.code capabilities = .ok code) :
    Makes coreImport (m.record capabilities) code code.requests := by
  have hunordered : ∀ r ∈ code.requests, r.Unordered := fun r hr =>
    unordered_of_mem_ownRequests r (mem_ownRequests_of_code h hr)
  have hcheck := check_properties coreImport m m.properties
  unfold Message.code at h
  split at h
  · cases h
  rename_i hname
  have hname : Text.isIdentifier m.name = true := by simpa using hname
  split at h
  · cases h
  rename_i hnone
  cases h
  rw [hnone] at hcheck
  have hproperty (p : String × Property) : Makes coreImport (recordProperty capabilities p)
      (p.2.code capabilities p.1) (propertyNeeds capabilities) := by
    have hstep : Makes coreImport (recordProperty capabilities p) (p.2.code capabilities p.1)
        (propertyNeeds capabilities ++ []) := (makes_requestAll _).bind makes_pure
    rwa [List.append_nil] at hstep
  have hsteps : Makes coreImport (m.record capabilities) _
      ([] ++ ([] ++ ([.transformer "Expose", .transformer "instanceToPlain",
        .transformer "plainToInstance"] ++ ((m.properties.map fun p => p.2.code capabilities p.1).flatMap
          (fun _ => propertyNeeds capabilities) ++ [])))) :=
    (makes_require hname).bind <| hcheck.bind <| (makes_requestAll _).bind <|
    (makes_mapM_pure hproperty m.properties).bind makes_pure
  refine hsteps.congr hunordered fun r => ?_
  simp only [List.nil_append, List.append_nil, MessageCode.requests, List.mem_append,
    List.mem_flatMap, List.mem_map, List.mem_cons, List.not_mem_nil, or_false]
  constructor
  · rintro (h | ⟨_, ⟨p, hp, rfl⟩, h⟩)
    · exact Or.inl h
    · exact Or.inr ⟨_, ⟨p, hp, rfl⟩, mem_requests_property.2 (Or.inl h)⟩
  · rintro (h | ⟨_, ⟨p, hp, rfl⟩, h⟩)
    · exact Or.inl h
    · rcases mem_requests_property.1 h with h | h
      · exact Or.inr ⟨_, ⟨p, hp, rfl⟩, h⟩
      · exact Or.inl (Or.inl h)

/-- **A message that cannot be emitted leaves the set alone.** -/
theorem rejects_record (h : m.code capabilities = .error e) :
    Rejects coreImport (m.record capabilities) e := by
  have hcheck := check_properties coreImport m m.properties
  unfold Message.code at h
  split at h
  · rename_i hname
    cases h
    exact (rejects_require (by simpa using hname)).bind
  rename_i hname
  have hname : Text.isIdentifier m.name = true := by simpa using hname
  refine (makes_require hname).bind_rejects ?_
  split at h
  · rename_i p hp
    cases h
    rw [hp] at hcheck
    exact hcheck.bind
  · cases h

end Message

/-! ## Modules -/

namespace Placed

open Recorder

variable {α β : Type} {policy : EmissionPolicy} {name : String} {x : Recorder α}
  {r : Except EmissionError α} {p : Placed α} {e : EmissionError} {coreImport : String}
  {requests : α → List ImportRequest}

/-- Emission of a part that may be left out. -/
def record (policy : EmissionPolicy) (name : String) (x : Recorder α) : Recorder (Placed α) := fun s =>
  match x.run s with
  | .ok a t => .ok (emitted a) t
  | .error e t =>
    match policy with
    | .strict => .error e t
    | .placeholder => .ok (omitted name e) t

/-- What a part needs: nothing, if it was left out. -/
def needs (requests : α → List ImportRequest) (p : Placed α) : List ImportRequest :=
  p.code?.toList.flatMap requests

theorem flatMap_needs (placed : List (Placed α)) :
    placed.flatMap (needs requests) = (placed.filterMap code?).flatMap requests := by
  induction placed with
  | nil => rfl
  | cons p rest ih =>
    rw [List.flatMap_cons, ih, List.filterMap_cons]
    cases p <;> simp [needs, code?]

/-- **A part that is left out records nothing.** -/
theorem makes_record (hmakes : ∀ a, r = .ok a → Makes coreImport x a (requests a))
    (hrejects : ∀ e, r = .error e → Rejects coreImport x e) (h : ofResult policy name r = .ok p) :
    Makes coreImport (record policy name x) p (needs requests p) := by
  intro s hs
  show record policy name x s = _
  cases r with
  | ok a =>
    cases h
    rw [record, hmakes a rfl s hs, needs, code?, Option.toList_some, List.flatMap_singleton]
  | error e =>
    cases policy with
    | strict => cases h
    | placeholder =>
      cases h
      rw [record, hrejects e rfl s hs]
      rfl

/-- Under the strict policy a part that cannot be emitted ends the module. -/
theorem rejects_record (hrejects : ∀ e, r = .error e → Rejects coreImport x e)
    (h : ofResult policy name r = .error e) : Rejects coreImport (record policy name x) e := by
  intro s hs
  show record policy name x s = _
  cases r with
  | ok a => cases h
  | error e' =>
    cases policy with
    | strict =>
      cases h
      rw [record, hrejects e rfl s hs]
    | placeholder => cases h

section All

variable {partName : β → String} {emit : β → Except EmissionError α} {step : β → Recorder α}
  {parts : List β}

/-- **Parts are recorded in order, each with what it needs.** -/
theorem makes_mapM_record
    (hmakes : ∀ b a, emit b = .ok a → Makes coreImport (step b) a (requests a))
    (hrejects : ∀ b e, emit b = .error e → Rejects coreImport (step b) e)
    {placed : List (Placed α)} (h : all policy partName emit parts = .ok placed) :
    Makes coreImport (parts.mapM fun b => record policy (partName b) (step b)) placed
      ((placed.filterMap code?).flatMap requests) := by
  rw [all_eq_mapM] at h
  rw [← flatMap_needs]
  exact makes_mapM (fun b _ => makes_record (hmakes b) (hrejects b)) h

theorem fails_mapM_record
    (hmakes : ∀ b a, emit b = .ok a → Makes coreImport (step b) a (requests a))
    (hrejects : ∀ b e, emit b = .error e → Rejects coreImport (step b) e)
    (h : all policy partName emit parts = .error e) :
    Fails coreImport (parts.mapM fun b => record policy (partName b) (step b)) e := by
  rw [all_eq_mapM] at h
  exact fails_mapM (fun b _ => makes_record (hmakes b) (hrejects b))
    (fun b _ hb => (rejects_record (hrejects b) hb).fails) h

end All

end Placed

namespace Contract

open Recorder

variable {c : Contract} {contracts : List Contract} {ctx : EmissionContext} {resolver : Resolver}
  {links : Table LinkTarget}

/-- The fields of a contract in its class, recording as they are emitted. -/
def recordFields (c : Contract) (ctx : EmissionContext) (links : Table LinkTarget) :
    Recorder (List (Placed MemberCode)) :=
  c.fields.mapM fun f =>
    Placed.record ctx.policy f.propertyKey (f.record ctx (links.get? f.propertyKey))

/-- The messages of a contract, recording as they are emitted. -/
def recordMessages (c : Contract) (ctx : EmissionContext) : Recorder (List (Placed MessageCode)) :=
  c.messages.mapM fun m => Placed.record ctx.policy m.name (m.record ctx.capabilities)

/-- Everything in the module of a contract that records imports: its identity and its links, what it
imports, its class and its messages. -/
def recordParts (c : Contract) (contracts : List Contract) (ctx : EmissionContext)
    (resolver : Resolver) (links : Table LinkTarget) :
    Recorder (List (Placed MemberCode) × List (Placed MessageCode)) := do
  requestAll (if ctx.usesDocumentIdentity c.modelName then [.storage] else [])
  requestAll (c.linkedRequests contracts resolver [] c.fields)
  requestAll (c.imports.flatMap moduleRequest)
  requestAll ((c.classAround ctx []).decorations.map Decoration.request)
  requestAll ((c.identityCode ctx).toList.flatMap MemberCode.requests)
  let fields ← c.recordFields ctx links
  requestAll (if (c.classAround ctx fields).hooks.isEmpty then [] else [.core "Callbacks"])
  let messages ← c.recordMessages ctx
  return (fields, messages)

/-- The module of a contract, with one import set that is recorded into from start to end. -/
def recordModule (c : Contract) (contracts : List Contract) (ctx : EmissionContext)
    (resolver : Resolver) : Except Failure ModelModule :=
  match c.check with
  | .error e => .error (.schema e)
  | .ok () =>
    match c.resolveLinks contracts with
    | .error e => .error (.schema e)
    | .ok links =>
      match (c.recordParts contracts ctx resolver links).run (.base ctx.coreImport) with
      | .error e _ => .error (.emission e)
      | .ok (fields, messages) imports =>
        .ok
          { generatedName := c.generatedName
            model := c.modelName
            imports := imports
            interfaceCode := c.interfaceCode ctx links
            classCode := c.classAround ctx fields
            schema := c.schemaStructure links ctx
            messages := messages }

/-- The class of a model asks for names only. -/
theorem unordered_of_mem_class {fields : List (Placed MemberCode)}
    (hfields : c.placedFields ctx links = .ok fields) :
    ∀ r ∈ (c.classAround ctx fields).requests, r.Unordered := by
  intro r hr
  simp only [ClassCode.requests, List.mem_append, List.mem_flatMap, Option.mem_toList, List.mem_map,
    or_assoc] at hr
  rcases hr with ⟨a, ha, rfl⟩ | ⟨code, hcode, hr⟩ | ⟨code, hcode, hr⟩ | hr
  · obtain ⟨-, ha⟩ := List.mem_ite_nil_right.1 ha
    rw [List.mem_singleton.1 ha]
    trivial
  · exact unordered_of_mem_ownRequests r (mem_ownRequests_of_identity hcode hr)
  · obtain ⟨f, -, hcode⟩ := Placed.exists_of_mem_codes hfields hcode
    exact Field.unordered_of_code hcode r hr
  · obtain ⟨-, hr⟩ := List.mem_ite_nil_left.1 hr
    rw [List.mem_singleton.1 hr]
    trivial

/-- So do its messages. -/
theorem unordered_of_mem_messages {messages : List (Placed MessageCode)}
    (hmessages : c.placedMessages ctx = .ok messages) :
    ∀ r ∈ (messages.filterMap Placed.code?).flatMap MessageCode.requests, r.Unordered := by
  intro r hr
  obtain ⟨code, hcode, hr⟩ := List.mem_flatMap.1 hr
  obtain ⟨m, -, hcode⟩ := Placed.exists_of_mem_codes hmessages hcode
  exact unordered_of_mem_ownRequests r (Message.mem_ownRequests_of_code hcode hr)

theorem makes_recordFields {fields : List (Placed MemberCode)}
    (h : c.placedFields ctx links = .ok fields) :
    Makes ctx.coreImport (c.recordFields ctx links) fields
      ((fields.filterMap Placed.code?).flatMap MemberCode.requests) :=
  Placed.makes_mapM_record (fun _ _ => Field.makes_record) (fun _ _ => Field.rejects_record) h

theorem makes_recordMessages {messages : List (Placed MessageCode)}
    (h : c.placedMessages ctx = .ok messages) :
    Makes ctx.coreImport (c.recordMessages ctx) messages
      ((messages.filterMap Placed.code?).flatMap MessageCode.requests) :=
  Placed.makes_mapM_record (fun _ _ => Message.makes_record) (fun _ _ => Message.rejects_record) h

theorem coreImport_base (coreImport : String) : (ImportSet.base coreImport).coreImport = coreImport :=
  (ImportSet.includes_addAll _ _).coreImport

theorem run_recordParts {fields : List (Placed MemberCode)} {messages : List (Placed MessageCode)}
    (hfields : c.placedFields ctx links = .ok fields)
    (hmessages : c.placedMessages ctx = .ok messages) :
    (c.recordParts contracts ctx resolver links).run (.base ctx.coreImport) =
      .ok (fields, messages)
        (c.moduleImports contracts ctx resolver (c.classAround ctx fields) messages) := by
  have hsteps : Makes ctx.coreImport (c.recordParts contracts ctx resolver links) (fields, messages) _ :=
    (makes_requestAll _).bind <| (makes_requestAll _).bind <| (makes_requestAll _).bind <|
    (makes_requestAll _).bind <| (makes_requestAll _).bind <| (makes_recordFields hfields).bind <|
    (makes_requestAll _).bind <| (makes_recordMessages hmessages).bind makes_pure
  rw [hsteps _ (coreImport_base _), moduleImports, ClassCode.requests]
  simp only [List.append_assoc, List.append_nil]
  rfl

/-- Nothing fails but the fields and, once they are emitted, the messages. -/
theorem fails_recordParts {e : EmissionError}
    (h : c.placedFields ctx links = .error e ∨
      ∃ fields, c.placedFields ctx links = .ok fields ∧ c.placedMessages ctx = .error e) :
    Fails ctx.coreImport (c.recordParts contracts ctx resolver links) e := by
  refine (makes_requestAll _).bind_fails <| (makes_requestAll _).bind_fails <|
    (makes_requestAll _).bind_fails <| (makes_requestAll _).bind_fails <|
    (makes_requestAll _).bind_fails ?_
  rcases h with hfields | ⟨fields, hfields, hmessages⟩
  · exact Fails.bind <|
      Placed.fails_mapM_record (fun _ _ => Field.makes_record) (fun _ _ => Field.rejects_record) hfields
  · exact (makes_recordFields hfields).bind_fails <| (makes_requestAll _).bind_fails <| Fails.bind <|
      Placed.fails_mapM_record (fun _ _ => Message.makes_record) (fun _ _ => Message.rejects_record)
        hmessages

/-- **Emission that records as it goes gives the module, imports and all**, and the same failures. -/
theorem recordModule_eq (c : Contract) (contracts : List Contract) (ctx : EmissionContext)
    (resolver : Resolver) :
    c.recordModule contracts ctx resolver = c.modelModule contracts ctx resolver := by
  cases hmodule : c.modelModule contracts ctx resolver with
  | ok m =>
    obtain ⟨links, fields, messages, hcheck, hlinks, hfields, hmessages, rfl⟩ :=
      modelModule_eq_ok_iff.1 hmodule
    simp only [recordModule, hcheck, hlinks, run_recordParts hfields hmessages]
    rfl
  | error e =>
    rcases modelModule_eq_error_iff.1 hmodule with ⟨s, hs, rfl⟩ | ⟨links, hcheck, hlinks, hparts⟩
    · cases hs with
      | check hcheck => simp only [recordModule, hcheck]
      | links hcheck hlinks => simp only [recordModule, hcheck, hlinks]
    · obtain ⟨s, hs, rfl⟩ : ∃ s, (c.placedFields ctx links = .error s ∨
          ∃ fields, c.placedFields ctx links = .ok fields ∧ c.placedMessages ctx = .error s) ∧
          e = .emission s := by
        rcases hparts with ⟨s, hfields, rfl⟩ | ⟨fields, s, hfields, hmessages, rfl⟩
        · exact ⟨s, Or.inl hfields, rfl⟩
        · exact ⟨s, Or.inr ⟨fields, hfields, hmessages⟩, rfl⟩
      have hfails : Fails ctx.coreImport (c.recordParts contracts ctx resolver links) s :=
        fails_recordParts hs
      obtain ⟨t, ht⟩ := hfails _ (coreImport_base _)
      simp only [recordModule, hcheck, hlinks, ht]

end Contract

/-! ## Transactions -/

/-- **Emission of a field and of a message is a transaction on import sets.** The recorders have the
outcomes of `Field.code` and `Message.code`, and the module they make together is the module of the
contract. -/
theorem transactional_record (ctx : EmissionContext) :
    (∀ (f : Field) (link : Option LinkTarget),
      (f.record ctx link).Transactional ctx.coreImport (f.code ctx link)) ∧
    (∀ m : Message, (m.record ctx.capabilities).Transactional ctx.coreImport (m.code ctx.capabilities)) ∧
    ∀ (c : Contract) (contracts : List Contract) (resolver : Resolver),
      c.recordModule contracts ctx resolver = c.modelModule contracts ctx resolver := by
  refine ⟨fun f link => ?_, fun m => ?_, fun c contracts resolver => c.recordModule_eq _ _ _⟩
  · exact Recorder.transactional (fun _ => Field.makes_record) (fun _ => Field.rejects_record)
      fun code hcode => Field.unordered_of_code hcode
  · exact Recorder.transactional (fun _ => Message.makes_record) (fun _ => Message.rejects_record)
      fun code hcode r hr => unordered_of_mem_ownRequests r (Message.mem_ownRequests_of_code hcode hr)

end ContractCompiler
