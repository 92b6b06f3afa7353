import ContractCompiler.Proofs.Module.Closure
import ContractCompiler.Proofs.Module.Policy

/-!
# What capabilities change

Emission reads the capabilities where it documents a field, a message or the identity of a model,
and nowhere else. So they decide neither whether a module can be emitted nor what a line of it says,
but only which lines of documentation stand between the others.

* `Field.code_having` — one failure for all capabilities, or one code around the documentation.
* `emitModel_having_eq_error_iff` — emission fails alike under all capabilities.
* `emitModel_having_congr` — nothing but API documentation and graph queries shows in the text.
* `capabilities_add_documentation` — all of this, and what is added to fields and messages.
-/

namespace ContractCompiler

/-- The context with other capabilities. -/
def EmissionContext.having (ctx : EmissionContext) (capabilities : CapabilitySet) : EmissionContext :=
  { ctx with capabilities := capabilities }

theorem EmissionContext.having_self (ctx : EmissionContext) : ctx.having ctx.capabilities = ctx := rfl

/-- The same documentation is asked for. -/
def CapabilitySet.SameDocumentation (a b : CapabilitySet) : Prop :=
  a.openapi = b.openapi ∧ a.graphql = b.graphql

variable {ctx : EmissionContext} {a b : CapabilitySet}

/-! ## Fields -/

/-- One line, that of a decoration with the name, where it is asked for, and no line elsewhere. -/
def LineWhen (asked : Bool) (name : String) (lines : List String) : Prop :=
  if asked then ∃ arguments, lines = ["@" ++ name ++ "(" ++ arguments ++ ")"] else lines = []

namespace Field

variable {f : Field} {link : Option LinkTarget}

/-- **A field fails with one and the same error under all capabilities, or its code differs in the
documentation only.** -/
theorem code_having (f : Field) (ctx : EmissionContext) (link : Option LinkTarget) :
    (∃ e, ∀ capabilities, f.code (ctx.having capabilities) link = .error e) ∨
      ∃ before after, ∀ capabilities, f.code (ctx.having capabilities) link =
        .ok ⟨before ++ f.documentation capabilities (f.docType link) ++ after,
          ⟨f.propertyKey, f.isOptional, f.memberType ctx link, f.initial⟩, f.extraNeeds ctx link⟩ := by
  cases hkey : !Text.isIdentifier f.propertyKey with
  | true => exact Or.inl ⟨⟨f.propertyKey, .invalidPropertyKey⟩, fun _ => by simp [code, hkey]⟩
  | false =>
    cases hlink : !f.link.isEmpty && link.isNone with
    | true => exact Or.inl ⟨⟨f.propertyKey, .unresolvedLink⟩, fun _ => by simp [code, hkey, hlink]⟩
    | false =>
      cases hd : decorationsOf f.propertyKey f.decorators with
      | error e => exact Or.inl ⟨e, fun _ => by simp [code, hkey, hlink, hd]⟩
      | ok decorators =>
        cases hv : Validation.decorations f.propertyKey f.validations with
        | error e => exact Or.inl ⟨e, fun _ => by simp [code, hkey, hlink, hd, hv]⟩
        | ok validations =>
          refine Or.inr ⟨[f.exposure] ++ f.constraints ++ decorators ++ validations, f.callbacks,
            fun _ => ?_⟩
          simp only [code, hkey, hlink, hd, hv]
          rfl

theorem code_having_eq_error_iff {e : EmissionError} :
    f.code (ctx.having a) link = .error e ↔ f.code (ctx.having b) link = .error e := by
  rcases code_having f ctx link with ⟨e', h⟩ | ⟨before, after, h⟩
  · rw [h a, h b]
  · simp only [h a, h b, reduceCtorEq]

theorem code_having_congr (h : a.SameDocumentation b) :
    f.code (ctx.having a) link = f.code (ctx.having b) link := by
  rcases code_having f ctx link with ⟨e, hall⟩ | ⟨before, after, hall⟩
  · rw [hall a, hall b]
  · rw [hall a, hall b, documentation, documentation, h.1, h.2]

theorem documentation_empty (f : Field) (doc : String) : f.documentation .empty doc = [] := rfl

/-- What decorates a field in the documentation of the API. -/
def apiName (f : Field) : String := if f.exclude then "ApiHideProperty" else "ApiProperty"

/-- The documentation of a field is a line for the API and a line for graph queries, each where it is
asked for; a field that is not exposed is hidden from the one and left out of the other. -/
theorem lines_documentation (f : Field) (capabilities : CapabilitySet) (doc : String) :
    ∃ api graph, (f.documentation capabilities doc).map Decoration.text = api ++ graph ∧
      LineWhen capabilities.openapi f.apiName api ∧
      LineWhen (capabilities.graphql && !f.exclude) "GraphQLField" graph := by
  rw [documentation, List.map_append]
  refine ⟨_, _, rfl, ?_, ?_⟩
  · unfold apiName
    cases capabilities.openapi with
    | false => rfl
    | true => cases f.exclude <;> exact ⟨_, rfl⟩
  · cases capabilities.graphql && !f.exclude with
    | false => rfl
    | true => exact ⟨_, rfl⟩

/-- **The lines of a field are those without capabilities, and at one place between them lines of
documentation.** -/
theorem lines_having {code : MemberCode} (h : f.code ctx link = .ok code) :
    ∃ before after, (∃ plain, f.code (ctx.having .empty) link = .ok plain ∧
        plain.lines = before ++ after) ∧
      ∀ capabilities, ∃ documented api graph,
        f.code (ctx.having capabilities) link = .ok documented ∧
        documented.lines = before ++ (api ++ graph) ++ after ∧
        LineWhen capabilities.openapi f.apiName api ∧
        LineWhen (capabilities.graphql && !f.exclude) "GraphQLField" graph := by
  rcases code_having f ctx link with ⟨e, hall⟩ | ⟨before, after, hall⟩
  · rw [← ctx.having_self, hall] at h
    cases h
  · refine ⟨before.map Decoration.text, after.map Decoration.text ++
      [(MemberDeclaration.mk f.propertyKey f.isOptional (f.memberType ctx link) f.initial).text],
      ⟨_, hall .empty, ?_⟩, fun capabilities => ?_⟩
    · rw [MemberCode.lines, documentation_empty, List.append_nil, List.map_append, List.append_assoc]
    · obtain ⟨api, graph, hlines, hapi, hgraph⟩ :=
        f.lines_documentation capabilities (f.docType link)
      refine ⟨_, api, graph, hall capabilities, ?_, hapi, hgraph⟩
      rw [MemberCode.lines, List.map_append, List.map_append, hlines, List.append_assoc,
        List.append_assoc, List.append_assoc]

end Field

/-! ## Messages -/

/-- The code of a message with API documentation, next to its code without: a line of documentation
stands before the exposure of each property, and everything else is the same. -/
structure MessageCode.Documents (documented plain : MessageCode) : Prop where
  rest : documented = { plain with classMembers := documented.classMembers }
  members : List.Forall₂
    (fun d p => ∃ arguments declaration, p.lines = ["@Expose()", declaration] ∧
      d.lines = ["@ApiProperty(" ++ arguments ++ ")", "@Expose()", declaration])
    documented.classMembers plain.classMembers

namespace Message

variable {m : Message}

/-- A message fails with one and the same error under all capabilities, or its code differs in the
members of its class only. -/
theorem code_having (m : Message) :
    (∃ e, ∀ capabilities, m.code capabilities = .error e) ∨
      ∀ capabilities, m.code capabilities =
        .ok ⟨m.name, m.className, m.properties.map fun p => p.2.interfaceMember p.1,
          m.properties.map fun p => p.2.code capabilities p.1⟩ := by
  cases hname : !Text.isIdentifier m.name with
  | true => exact Or.inl ⟨⟨m.name, .invalidMessageName⟩, fun _ => by simp [code, hname]⟩
  | false =>
    cases hbad : m.properties.find? fun p => !Text.isIdentifier p.1 with
    | some p =>
      exact Or.inl ⟨⟨p.1, .invalidMessageProperty m.name⟩, fun _ => by simp [code, hname, hbad]⟩
    | none => exact Or.inr fun _ => by simp [code, hname, hbad]

theorem code_eq_error_iff_of_capabilities {e : EmissionError} :
    m.code a = .error e ↔ m.code b = .error e := by
  rcases code_having m with ⟨e', h⟩ | h
  · rw [h a, h b]
  · simp only [h a, h b, reduceCtorEq]

theorem code_congr_of_openapi (h : a.openapi = b.openapi) : m.code a = m.code b := by
  rcases code_having m with ⟨e, hall⟩ | hall
  · rw [hall a, hall b]
  · simp only [hall a, hall b, Property.code, h]

/-- **API documentation puts a line before each property of a message.** -/
theorem exists_documents {plain : MessageCode} (ha : a.openapi = true) (hb : b.openapi = false)
    (h : m.code b = .ok plain) : ∃ documented, m.code a = .ok documented ∧ documented.Documents plain := by
  rcases code_having m with ⟨e, hall⟩ | hall
  · rw [hall] at h
    cases h
  · rw [hall] at h
    cases h
    refine ⟨_, hall a, rfl, ?_⟩
    rw [List.forall₂_map_left_iff, List.forall₂_map_right_iff, List.forall₂_same]
    rintro ⟨key, p⟩ -
    simp only [Property.code, ha, hb]
    exact ⟨_, _, rfl, rfl⟩

end Message

/-! ## Models -/

namespace Contract

variable {c : Contract} {contracts : List Contract} {resolver : Resolver} {links : Table LinkTarget}

theorem placedFields_having_eq_error_iff {e : EmissionError} :
    c.placedFields (ctx.having a) links = .error e ↔ c.placedFields (ctx.having b) links = .error e :=
  Placed.all_eq_error_congr fun _ _ => Field.code_having_eq_error_iff

theorem placedMessages_having_eq_error_iff {e : EmissionError} :
    c.placedMessages (ctx.having a) = .error e ↔ c.placedMessages (ctx.having b) = .error e :=
  Placed.all_eq_error_congr fun _ _ => Message.code_eq_error_iff_of_capabilities

theorem exists_placedFields_having {fields : List (Placed MemberCode)}
    (h : c.placedFields (ctx.having a) links = .ok fields) :
    ∃ fields', c.placedFields (ctx.having b) links = .ok fields' := by
  cases hb : c.placedFields (ctx.having b) links with
  | ok fields' => exact ⟨fields', rfl⟩
  | error e =>
    rw [placedFields_having_eq_error_iff (b := a), h] at hb
    cases hb

theorem emitModel_having_eq_error {e : Failure}
    (h : c.emitModel contracts (ctx.having a) resolver = .error e) :
    c.emitModel contracts (ctx.having b) resolver = .error e := by
  rw [emitModel_eq_error_iff, modelModule_eq_error_iff] at h ⊢
  rcases h with hrefused | ⟨links, hcheck, hlinks, ⟨s, hs, he⟩ | ⟨fields, s, hfields, hs, he⟩⟩
  · exact Or.inl hrefused
  · exact Or.inr ⟨links, hcheck, hlinks, Or.inl ⟨s, placedFields_having_eq_error_iff.1 hs, he⟩⟩
  · obtain ⟨fields', hfields'⟩ := exists_placedFields_having (b := b) hfields
    exact Or.inr ⟨links, hcheck, hlinks,
      Or.inr ⟨fields', s, hfields', placedMessages_having_eq_error_iff.1 hs, he⟩⟩

/-- **Emission fails alike under all capabilities.** -/
theorem emitModel_having_eq_error_iff {e : Failure} :
    c.emitModel contracts (ctx.having a) resolver = .error e ↔
      c.emitModel contracts (ctx.having b) resolver = .error e :=
  ⟨emitModel_having_eq_error, emitModel_having_eq_error⟩

theorem placedFields_having_congr (h : a.SameDocumentation b) :
    c.placedFields (ctx.having a) links = c.placedFields (ctx.having b) links := by
  have hcode : (fun f : Field => f.code (ctx.having a) (links.get? f.propertyKey)) =
      fun f => f.code (ctx.having b) (links.get? f.propertyKey) :=
    funext fun _ => Field.code_having_congr h
  exact congrArg (Placed.all ctx.policy Field.propertyKey · c.fields) hcode

theorem placedMessages_having_congr (h : a.SameDocumentation b) :
    c.placedMessages (ctx.having a) = c.placedMessages (ctx.having b) := by
  have hcode : (fun m : Message => m.code a) = fun m => m.code b :=
    funext fun _ => Message.code_congr_of_openapi h.1
  exact congrArg (Placed.all ctx.policy Message.name · c.messages) hcode

theorem classAround_having_congr (h : a.SameDocumentation b) :
    c.classAround (ctx.having a) = c.classAround (ctx.having b) := by
  have hidentity : c.identityCode (ctx.having a) = c.identityCode (ctx.having b) := by
    simp only [identityCode, EmissionContext.having, h.1, h.2]
    rfl
  have hgraphql : (ctx.having a).capabilities.graphql = (ctx.having b).capabilities.graphql := h.2
  funext fields
  rw [classAround, classAround, hidentity, hgraphql]

theorem moduleAround_having_congr (h : a.SameDocumentation b) :
    c.moduleAround contracts (ctx.having a) resolver = c.moduleAround contracts (ctx.having b) resolver := by
  funext links fields messages
  simp only [moduleAround, classAround_having_congr h]
  rfl

theorem emitModel_having_congr (h : a.SameDocumentation b) :
    c.emitModel contracts (ctx.having a) resolver = c.emitModel contracts (ctx.having b) resolver := by
  have hok (t : String) : c.emitModel contracts (ctx.having a) resolver = .ok t ↔
      c.emitModel contracts (ctx.having b) resolver = .ok t := by
    simp only [emitModel_eq_ok_iff, modelModule_eq_ok_iff, placedFields_having_congr h,
      placedMessages_having_congr h, moduleAround_having_congr h]
  cases ha : c.emitModel contracts (ctx.having a) resolver with
  | error e => rw [emitModel_having_eq_error ha]
  | ok t => rw [(hok t).1 ha]

end Contract

/-! ## All of a module -/

/-- **Capabilities add documentation and nothing else.** Emission of a model fails alike under all
capabilities, and gives the same text where the same documentation is asked for. The lines of a
field that can be emitted are its lines without capabilities and, at one place between them, one line
for the API and one for graph queries where these are asked for. A message fails alike under all
capabilities; with API documentation a line stands before the exposure of each of its properties. -/
theorem capabilities_add_documentation (ctx : EmissionContext) :
    (∀ (c : Contract) (contracts : List Contract) (resolver : Resolver) (a b : CapabilitySet),
      (∀ e, c.emitModel contracts (ctx.having a) resolver = .error e ↔
        c.emitModel contracts (ctx.having b) resolver = .error e) ∧
      (a.openapi = b.openapi → a.graphql = b.graphql →
        c.emitModel contracts (ctx.having a) resolver =
          c.emitModel contracts (ctx.having b) resolver)) ∧
    (∀ (f : Field) (link : Option LinkTarget) (code : MemberCode), f.code ctx link = .ok code →
      ∃ before after, (∃ plain, f.code (ctx.having .empty) link = .ok plain ∧
          plain.lines = before ++ after) ∧
        ∀ capabilities, ∃ documented api graph,
          f.code (ctx.having capabilities) link = .ok documented ∧
          documented.lines = before ++ (api ++ graph) ++ after ∧
          LineWhen capabilities.openapi f.apiName api ∧
          LineWhen (capabilities.graphql && !f.exclude) "GraphQLField" graph) ∧
    ∀ (m : Message) (a b : CapabilitySet),
      (∀ e, m.code a = .error e ↔ m.code b = .error e) ∧
      (a.openapi = b.openapi → m.code a = m.code b) ∧
      (a.openapi = true → b.openapi = false → ∀ plain, m.code b = .ok plain →
        ∃ documented, m.code a = .ok documented ∧ documented.Documents plain) :=
  ⟨fun _ _ _ _ _ => ⟨fun _ => Contract.emitModel_having_eq_error_iff,
      fun hopenapi hgraphql => Contract.emitModel_having_congr ⟨hopenapi, hgraphql⟩⟩,
    fun _ _ _ => Field.lines_having,
    fun _ _ _ => ⟨fun _ => Message.code_eq_error_iff_of_capabilities,
      Message.code_congr_of_openapi, fun ha hb _ => Message.exists_documents ha hb⟩⟩

/-- API documentation and graph queries, and no other module. -/
def CapabilitySet.documenting : CapabilitySet := { CapabilitySet.empty with openapi := true, graphql := true }

/-- A message of one text. -/
def greeting : Message :=
  ⟨"Greeting", [("text", ⟨.known .string, none, none, none, none, false, false⟩)]⟩

/-- A model under all capabilities, a field, and a message. -/
theorem documentation_of_greeting :
    (Contract.fullContext.capabilities.openapi = CapabilitySet.documenting.openapi ∧
      Contract.fullContext.capabilities.graphql = CapabilitySet.documenting.graphql ∧
      (Contract.named "User" "User").emitModel [] Contract.fullContext Contract.nameResolver =
        (Contract.named "User" "User").emitModel [] (Contract.fullContext.having .documenting)
          Contract.nameResolver) ∧
    (∃ code, (Field.plain "text" (.known .string)).code Contract.fullContext none = .ok code ∧
      ∃ before after plain, (Field.plain "text" (.known .string)).code
          (Contract.fullContext.having .empty) none = .ok plain ∧ plain.lines = before ++ after ∧
        ∃ api graph, code.lines = before ++ (api ++ graph) ++ after) ∧
    ∃ plain documented, greeting.code .empty = .ok plain ∧
      greeting.code .documenting = .ok documented ∧ documented.Documents plain := by
  obtain ⟨hmodel, hfield, hmessage⟩ := capabilities_add_documentation Contract.fullContext
  refine ⟨⟨rfl, rfl, (hmodel _ _ _ Contract.fullContext.capabilities .documenting).2 rfl rfl⟩, ?_, ?_⟩
  · obtain ⟨before, after, ⟨plain, hplain, hlines⟩, hall⟩ :=
      hfield (Field.plain "text" (.known .string)) none _ rfl
    obtain ⟨code, api, graph, hcode, hcodeLines, -, -⟩ := hall Contract.fullContext.capabilities
    exact ⟨code, hcode, before, after, plain, hplain, hlines, api, graph, hcodeLines⟩
  · obtain ⟨documented, hdocumented, hdocuments⟩ :=
      (hmessage greeting .documenting .empty).2.2 rfl rfl _ rfl
    exact ⟨_, documented, rfl, hdocumented, hdocuments⟩

end ContractCompiler
