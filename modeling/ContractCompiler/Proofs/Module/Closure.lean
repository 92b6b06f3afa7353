import ContractCompiler.Proofs.Contract.Links
import ContractCompiler.Proofs.Module.Import
import ContractCompiler.Proofs.Module.Mention
import ContractCompiler.Proofs.Module.Model

/-!
# Modules import what they name

Every name that emission itself writes into a module is bound by the module's import block. Names
are recorded far from where they are written, so the proof goes through the requests: whoever writes
a name has a request for it, every request reaches the import set of the module, and a request that
is met is bound (`ImportSet.binds_of_meets`).

* `linked_mem_linkedRequests` — one import for each model name among the targets of linked fields.
* `Contract.ImportsClosed` — what is bound, by the place where it is written.
* `Contract.importsClosed_of_emitModel` — every emitted module is closed in this sense.
-/

namespace ContractCompiler

/-! ## Decorations -/

/-- What the decorations of a source are imported from. -/
def DecorationSource.text (coreImport : String) : DecorationSource → String
  | core => coreImport
  | transformer => transformerSource
  | validator => validatorSource
  | openapi => openapiSource
  | graphql => graphqlSource
  | custom source => source

/-- The request of a decoration is for the name it is written with. -/
theorem Decoration.mem_bound_request (a : Decoration) (coreImport : String) :
    (⟨a.name, a.writtenName⟩, a.source.text coreImport) ∈ a.request.bound coreImport := by
  obtain ⟨source, name, arguments⟩ := a
  cases source <;> exact List.mem_singleton.2 rfl

/-- Every decoration in a module: those of the class, of its identity, of its emitted fields and of
the emitted messages. -/
def ModelModule.decorations (m : ModelModule) : List Decoration :=
  m.classCode.decorations ++ m.classCode.identity.toList.flatMap MemberCode.decorations ++
    (m.classCode.fields.filterMap Placed.code?).flatMap MemberCode.decorations ++
    (m.messages.filterMap Placed.code?).flatMap fun code =>
      code.classMembers.flatMap MemberCode.decorations

/-! ## Linked models -/

namespace Contract

variable {c : Contract} {contracts : List Contract} {ctx : EmissionContext} {resolver : Resolver}

/-- The specifier by which the contract's module imports the target's. -/
def specifierOf (c : Contract) (resolver : Resolver) (target : Contract) : String :=
  resolver c target (c.isModuleContract != target.isModuleContract)

/-- The first contract with that model name among the targets of linked fields. -/
def firstTarget? (contracts : List Contract) (fields : List Field) (model : String) :
    Option Contract :=
  (fields.filterMap (linkTarget? contracts)).find? fun t => t.modelName == model

theorem linkedRequests_cons (seen : List String) (f : Field) (rest : List Field) :
    c.linkedRequests contracts resolver seen (f :: rest) =
      match linkTarget? contracts f with
      | none => c.linkedRequests contracts resolver seen rest
      | some t =>
        if t.modelName = c.modelName || seen.contains t.modelName then
          c.linkedRequests contracts resolver seen rest
        else
          .linked (c.specifierOf resolver t) [t.modelName, structureName t.modelName] ::
            c.linkedRequests contracts resolver (t.modelName :: seen) rest := by
  rw [linkedRequests, linkTarget?]
  cases f.link <;> rfl

/-- **Each model name among the targets of linked fields is imported once**, for the first target
with that name. -/
theorem linked_mem_linkedRequests (c : Contract) (resolver : Resolver) {model : String}
    (hown : model ≠ c.modelName) {fields : List Field} :
    ∀ {seen : List String}, model ∉ seen →
      ∀ f ∈ fields, ∀ t, linkTarget? contracts f = some t → t.modelName = model →
        ∃ u, firstTarget? contracts fields model = some u ∧ u.modelName = model ∧
          .linked (c.specifierOf resolver u) [model, structureName model] ∈
            c.linkedRequests contracts resolver seen fields := by
  induction fields with
  | nil =>
    intro seen _ f hf
    cases hf
  | cons g rest ih =>
    intro seen hseen f hf t ht hmodel
    rw [linkedRequests_cons]
    unfold firstTarget?
    cases hg : linkTarget? contracts g with
    | none =>
      rcases List.mem_cons.1 hf with rfl | hf
      · rw [hg] at ht
        cases ht
      · rw [List.filterMap_cons_none hg]
        exact ih hseen f hf t ht hmodel
    | some u =>
      rw [List.filterMap_cons_some hg]
      by_cases hu : u.modelName = model
      · -- the first target with that name is the head, and its name is new
        refine ⟨u, List.find?_cons_of_pos (by simpa using hu), hu, ?_⟩
        have hfresh : ¬(decide (u.modelName = c.modelName) || seen.contains u.modelName) = true := by
          simp [hu, hown, hseen]
        simp only [hfresh]
        rw [hu]
        exact List.mem_cons_self
      · rw [List.find?_cons_of_neg (by simpa using hu)]
        have hrest : f ∈ rest := by
          rcases List.mem_cons.1 hf with rfl | hf
          · rw [hg] at ht
            cases ht
            exact absurd hmodel hu
          · exact hf
        dsimp only
        split
        · exact ih hseen f hrest t ht hmodel
        · obtain ⟨v, hv, hname, hmem⟩ := ih
            (show model ∉ u.modelName :: seen by simp [Ne.symm hu, hseen]) f hrest t ht hmodel
          exact ⟨v, hv, hname, List.mem_cons_of_mem _ hmem⟩

end Contract

/-! ## Requests of a module -/

namespace Contract

variable {c : Contract} {contracts : List Contract} {ctx : EmissionContext} {resolver : Resolver}
  {links : Table LinkTarget} {fields : List (Placed MemberCode)}
  {messages : List (Placed MessageCode)}

/-- Everything that the module of a contract asks for. -/
def moduleRequests (c : Contract) (contracts : List Contract) (ctx : EmissionContext)
    (resolver : Resolver) (classCode : ClassCode) (messages : List (Placed MessageCode)) :
    List ImportRequest :=
  [.core "AbstractModel", .transformer "Expose", .transformer "plainToInstance"] ++
    ((if ctx.usesDocumentIdentity c.modelName then [.storage] else []) ++
      c.linkedRequests contracts resolver [] c.fields ++ c.imports.flatMap moduleRequest ++
      classCode.requests ++ (messages.filterMap Placed.code?).flatMap MessageCode.requests)

/-- A module imports what it asks for and nothing else. -/
theorem moduleImports_eq {classCode : ClassCode} :
    c.moduleImports contracts ctx resolver classCode messages =
      (ImportSet.empty ctx.coreImport).addAll
        (c.moduleRequests contracts ctx resolver classCode messages) :=
  List.foldl_append.symm

/-- **Every request of a module is bound by its import block.** -/
theorem binds_of_mem_moduleRequests {classCode : ClassCode} {r : ImportRequest}
    (hr : r ∈ c.moduleRequests contracts ctx resolver classCode messages)
    {b : ImportedName × String} (hb : b ∈ r.bound ctx.coreImport) :
    (c.moduleImports contracts ctx resolver classCode messages).Binds b.1 b.2 := by
  have hcore := (ImportSet.includes_addAll
    (c.moduleRequests contracts ctx resolver classCode messages)
    (ImportSet.empty ctx.coreImport)).coreImport
  rw [moduleImports_eq]
  refine ImportSet.binds_of_meets (ImportSet.meets_addAll hr) ?_
  rw [hcore]
  exact hb

theorem mem_requests_of_mem_identity {classCode : ClassCode} {code : MemberCode}
    (h : classCode.identity = some code) {r : ImportRequest} (hr : r ∈ code.requests) :
    r ∈ classCode.requests := by
  simp only [ClassCode.requests, List.mem_append, List.mem_flatMap, Option.mem_toList]
  exact Or.inl (Or.inl (Or.inr ⟨code, h, hr⟩))

theorem mem_requests_of_mem_fields {classCode : ClassCode} {code : MemberCode}
    (h : .emitted code ∈ classCode.fields) {r : ImportRequest} (hr : r ∈ code.requests) :
    r ∈ classCode.requests := by
  simp only [ClassCode.requests, List.mem_append, List.mem_flatMap, List.mem_filterMap]
  exact Or.inl (Or.inr ⟨code, ⟨_, h, rfl⟩, hr⟩)

theorem mem_moduleRequests_of_mem_class {classCode : ClassCode} {r : ImportRequest}
    (h : r ∈ classCode.requests) :
    r ∈ c.moduleRequests contracts ctx resolver classCode messages := by
  simp only [moduleRequests, List.mem_append]
  exact Or.inr (Or.inl (Or.inr h))

theorem mem_moduleRequests_of_mem_messages {classCode : ClassCode} {code : MessageCode}
    (h : .emitted code ∈ messages) {r : ImportRequest} (hr : r ∈ code.requests) :
    r ∈ c.moduleRequests contracts ctx resolver classCode messages := by
  simp only [moduleRequests, List.mem_append, List.mem_flatMap, List.mem_filterMap]
  exact Or.inr (Or.inr ⟨code, ⟨_, h, rfl⟩, hr⟩)

theorem mem_moduleRequests_of_mem_linked {classCode : ClassCode} {r : ImportRequest}
    (h : r ∈ c.linkedRequests contracts resolver [] c.fields) :
    r ∈ c.moduleRequests contracts ctx resolver classCode messages := by
  simp only [moduleRequests, List.mem_append]
  exact Or.inr (Or.inl (Or.inl (Or.inl (Or.inr h))))

theorem storage_mem_moduleRequests {classCode : ClassCode}
    (h : ctx.usesDocumentIdentity c.modelName = true) :
    .storage ∈ c.moduleRequests contracts ctx resolver classCode messages := by
  simp [moduleRequests, h]

/-- Every decoration of a module is asked for. -/
theorem request_mem_moduleRequests {a : Decoration}
    (ha : a ∈ (c.moduleAround contracts ctx resolver links fields messages).decorations) :
    a.request ∈ c.moduleRequests contracts ctx resolver (c.classAround ctx fields) messages := by
  simp only [ModelModule.decorations, moduleAround, List.mem_append, List.mem_flatMap,
    List.mem_filterMap, Option.mem_toList, or_assoc] at ha
  rcases ha with ha | ⟨code, hcode, ha⟩ | ⟨code, ⟨p, hp, hcode⟩, ha⟩ |
    ⟨code, ⟨p, hp, hcode⟩, member, hmember, ha⟩
  · refine mem_moduleRequests_of_mem_class ?_
    simp only [ClassCode.requests, List.mem_append, List.mem_map]
    exact Or.inl (Or.inl (Or.inl ⟨a, ha, rfl⟩))
  · refine mem_moduleRequests_of_mem_class (mem_requests_of_mem_identity hcode ?_)
    exact List.mem_append_left _ (List.mem_map_of_mem ha)
  · obtain ⟨rfl⟩ := Placed.eq_emitted_of_code? hcode
    refine mem_moduleRequests_of_mem_class (mem_requests_of_mem_fields hp ?_)
    exact List.mem_append_left _ (List.mem_map_of_mem ha)
  · obtain ⟨rfl⟩ := Placed.eq_emitted_of_code? hcode
    refine mem_moduleRequests_of_mem_messages hp (List.mem_append_right _ ?_)
    exact List.mem_flatMap.2 ⟨member, hmember, List.mem_append_left _ (List.mem_map_of_mem ha)⟩

/-! ## Closed modules -/

/-- **The names that emission itself writes into a module are bound by its import block**, each from
where it comes. A member for each place that emission writes to; `links` are the resolved links of
the contract, and texts that the contract gives as types are its own. -/
structure ImportsClosed (c : Contract) (contracts : List Contract) (ctx : EmissionContext)
    (resolver : Resolver) (links : Table LinkTarget) (m : ModelModule) : Prop where
  decorations : ∀ a ∈ m.decorations,
    m.imports.Binds ⟨a.name, a.writtenName⟩ (a.source.text ctx.coreImport)
  serializer : .wholeModule "fastJson" serializerSource ∈ m.imports.statements
  superclass : m.imports.Binds (.same "AbstractModel") ctx.coreImport
  projection : m.imports.Binds (.same "plainToInstance") transformerSource
  plainData : ∀ code, .emitted code ∈ m.messages →
    m.imports.Binds (.same "instanceToPlain") transformerSource
  hooks : Text.Mentions m.classCode.hookMethod "Callbacks" →
    m.imports.Binds (.same "Callbacks") ctx.coreImport
  callbacks : ∀ code, .emitted code ∈ m.classCode.fields → ∀ a ∈ code.decorations,
    a.source = .transformer → Text.Mentions a.arguments "Callbacks" →
      m.imports.Binds (.same "Callbacks") ctx.coreImport
  identityQuery : ∀ code, m.classCode.identity = some code → ∀ a ∈ code.decorations,
    Text.Mentions a.arguments "ID" → m.imports.Binds (.same "ID") graphqlSource
  identityType : ∀ d ∈ c.identityMember ctx ++ (m.classCode.identity.map MemberCode.declaration).toList,
    Text.Mentions d.type "ObjectId" → m.imports.Binds (.same "ObjectId") storageSource
  interfaceType : ∀ f ∈ c.fields, ∀ d ∈ c.interfaceMembers ctx links f,
    Text.Mentions d.type "ObjectId" → m.imports.Binds (.same "ObjectId") storageSource ∨
      f.link = [] ∧ f.GivesType ctx none "ObjectId"
  fieldType : ∀ f code, (f, .emitted code) ∈ c.fields.zip m.classCode.fields →
    Text.Mentions code.declaration.type "ObjectId" →
      m.imports.Binds (.same "ObjectId") storageSource ∨
        f.GivesType ctx (links.get? f.propertyKey) "ObjectId"
  linked : ∀ f ∈ c.fields, f.link ≠ [] → ∃ t many, linkTarget? contracts f = some t ∧
    links.get? f.propertyKey = some ⟨t.modelName, many⟩ ∧
      (t.modelName ≠ c.modelName → ∃ u, firstTarget? contracts c.fields t.modelName = some u ∧
        m.imports.Binds (.same t.modelName) (c.specifierOf resolver u) ∧
        m.imports.Binds (.same (structureName t.modelName)) (c.specifierOf resolver u))

/-- Where the identity of a class names the identity type of graph queries, it needs it. -/
theorem graphql_mem_needs_of_identity {code : MemberCode} (h : c.identityCode ctx = some code)
    {a : Decoration} (ha : a ∈ code.decorations) (hmention : Text.Mentions a.arguments "ID") :
    .graphql "ID" ∈ code.needs := by
  obtain ⟨id, -, rfl⟩ := Option.map_eq_some_iff.1 h
  cases hgraphql : ctx.capabilities.graphql with
  | true => simp
  | false =>
    have hI : 'I' ∈ a.arguments.toList := hmention.mem (by decide)
    have hD : 'D' ∈ a.arguments.toList := hmention.mem (by decide)
    simp only [hgraphql, Bool.false_eq_true, if_false, List.append_nil, List.mem_append,
      List.mem_cons, List.not_mem_nil, or_false, List.mem_ite_nil_right] at ha
    rcases ha with (rfl | rfl) | ⟨-, rfl⟩
    · exact absurd hI (by decide)
    · exact absurd hI (by decide)
    · exact absurd hD (by decide)

/-- The identity in the interface and in the class is of the type of the store only where the store
has one. -/
theorem usesDocumentIdentity_of_identityType {d : MemberDeclaration}
    (hd : d ∈ c.identityMember ctx ++ ((c.identityCode ctx).map MemberCode.declaration).toList)
    (h : Text.Mentions d.type "ObjectId") : ctx.usesDocumentIdentity c.modelName = true := by
  have htype : d.type = if ctx.usesDocumentIdentity c.modelName then "ObjectId" else "any" := by
    simp only [identityMember, identityCode, List.mem_append, List.mem_map, Option.mem_toList,
      Option.map_map, Option.map_eq_some_iff] at hd
    rcases hd with ⟨id, -, rfl⟩ | ⟨id, -, rfl⟩ <;> rfl
  by_contra hnot
  rw [htype, if_neg hnot] at h
  exact absurd (h.mem (show 'O' ∈ "ObjectId".toList by decide)) (by decide)

/-- A field in the interface names the identity type of the store where the contract's own model is
stored by it. -/
theorem usesDocumentIdentity_of_interfaceType {f : Field} {d : MemberDeclaration}
    (hd : d ∈ c.interfaceMembers ctx links f) (h : Text.Mentions d.type "ObjectId") :
    ctx.usesDocumentIdentity c.modelName = true ∨
      links.get? f.propertyKey = none ∧ f.GivesType ctx none "ObjectId" := by
  unfold interfaceMembers at hd
  split at hd
  · cases hd
  split at hd
  · rename_i hnone
    rw [List.mem_singleton] at hd
    subst hd
    exact Or.inr ⟨hnone, Field.givesType_of_declaredType h⟩
  · left
    by_contra hnot
    have hO : 'O' ∈ d.type.toList := h.mem (by decide)
    rw [if_neg hnot] at hd
    rcases List.mem_cons.1 hd with rfl | hd
    · dsimp only at hO
      exact absurd hO (by decide)
    · split at hd
      · cases hd
      · rw [List.mem_singleton] at hd
        subst hd
        dsimp only at hO
        exact absurd hO (by decide)

/-- Where the hooks of a class name the callbacks, the class asks for them. -/
theorem callbacks_mem_requests_of_hooks {classCode : ClassCode}
    (h : Text.Mentions classCode.hookMethod "Callbacks") :
    .core "Callbacks" ∈ classCode.requests := by
  have hsome : classCode.hooks.isEmpty = false := by
    by_contra hempty
    have hC : 'C' ∈ classCode.hookMethod.toList := h.mem (by decide)
    rw [ClassCode.hookMethod, if_pos (by simpa using hempty)] at hC
    exact absurd hC (by decide)
  simp [ClassCode.requests, hsome]

/-- So does a class with a field whose transformation names them. -/
theorem callbacks_mem_requests_of_field (hfields : c.placedFields ctx links = .ok fields)
    {code : MemberCode} (hcode : .emitted code ∈ fields) {a : Decoration}
    (ha : a ∈ code.decorations) (hsource : a.source = .transformer)
    (hmention : Text.Mentions a.arguments "Callbacks") :
    .core "Callbacks" ∈ (c.classAround ctx fields).requests := by
  obtain ⟨f, -, hf⟩ := Placed.exists_of_mem_all hfields hcode
  have hneeds := Field.core_callbacks_mem_needs (Placed.ofResult_eq_emitted hf) ha hsource hmention
  exact mem_requests_of_mem_fields hcode (List.mem_append_right _ hneeds)

/-- A field in the interface names the identity type of the store where the contract's own model is
stored by it, or has it from the contract, and then it is no linked field. -/
theorem usesDocumentIdentity_or_givesType (hcheck : c.check = .ok ())
    (hlinks : c.resolveLinks contracts = .ok links) {f : Field} (hf : f ∈ c.fields)
    {d : MemberDeclaration} (hd : d ∈ c.interfaceMembers ctx links f)
    (hmention : Text.Mentions d.type "ObjectId") :
    ctx.usesDocumentIdentity c.modelName = true ∨
      f.link = [] ∧ f.GivesType ctx none "ObjectId" := by
  refine (usesDocumentIdentity_of_interfaceType hd hmention).imp_right fun ⟨hnone, hgives⟩ => ?_
  refine ⟨?_, hgives⟩
  by_contra hlink
  obtain ⟨t, -, many, hentry⟩ := exists_target_of_entry (get?_resolveLinks hcheck hlinks hf) hlink
  rw [hnone] at hentry
  cases hentry

/-- A field in the class names the identity type of the store where the class asks for it, or has it
from the contract. -/
theorem storage_mem_requests_or_givesType (hfields : c.placedFields ctx links = .ok fields)
    {f : Field} {code : MemberCode} (hzip : (f, .emitted code) ∈ c.fields.zip fields)
    (hmention : Text.Mentions code.declaration.type "ObjectId") :
    .storage ∈ (c.classAround ctx fields).requests ∨
      f.GivesType ctx (links.get? f.propertyKey) "ObjectId" := by
  have hcode : f.code ctx (links.get? f.propertyKey) = .ok code :=
    Placed.ofResult_eq_emitted ((List.forall₂_iff_zip.1 (Placed.all_eq_ok_iff.1 hfields)).2 hzip)
  obtain ⟨-, -, -, -, -, hdeclaration, hneeds⟩ := Field.code_eq_ok hcode
  rw [hdeclaration] at hmention
  refine (Field.storage_mem_extraNeeds hmention).imp_left fun hstorage => ?_
  rw [← hneeds] at hstorage
  exact mem_requests_of_mem_fields (List.of_mem_zip hzip).2 (List.mem_append_right _ hstorage)

/-- A linked field has a target, and unless that is of the contract's own model its names are asked
for from the first target of that model name. -/
theorem exists_target_of_link (hcheck : c.check = .ok ())
    (hlinks : c.resolveLinks contracts = .ok links) (resolver : Resolver) {f : Field}
    (hf : f ∈ c.fields) (hlink : f.link ≠ []) :
    ∃ t many, linkTarget? contracts f = some t ∧
      links.get? f.propertyKey = some ⟨t.modelName, many⟩ ∧
        (t.modelName ≠ c.modelName → ∃ u, firstTarget? contracts c.fields t.modelName = some u ∧
          .linked (c.specifierOf resolver u) [t.modelName, structureName t.modelName] ∈
            c.linkedRequests contracts resolver [] c.fields) := by
  obtain ⟨t, ht, many, hentry⟩ := exists_target_of_entry (get?_resolveLinks hcheck hlinks hf) hlink
  refine ⟨t, many, ht, hentry, fun hown => ?_⟩
  obtain ⟨u, hu, -, hmem⟩ := linked_mem_linkedRequests c resolver hown List.not_mem_nil f hf t ht rfl
  exact ⟨u, hu, hmem⟩

/-- The module of a contract is closed, whichever of its parts could be emitted. -/
theorem importsClosed_moduleAround (hcheck : c.check = .ok ())
    (hlinks : c.resolveLinks contracts = .ok links) (hfields : c.placedFields ctx links = .ok fields) :
    c.ImportsClosed contracts ctx resolver links
      (c.moduleAround contracts ctx resolver links fields messages) := by
  have hbinds : ∀ r ∈ c.moduleRequests contracts ctx resolver (c.classAround ctx fields) messages,
      ∀ b ∈ r.bound ctx.coreImport,
        (c.moduleImports contracts ctx resolver (c.classAround ctx fields) messages).Binds b.1 b.2 :=
    fun r hr b hb => binds_of_mem_moduleRequests hr hb
  have hclass : ∀ r ∈ (c.classAround ctx fields).requests, ∀ b ∈ r.bound ctx.coreImport,
      (c.moduleImports contracts ctx resolver (c.classAround ctx fields) messages).Binds b.1 b.2 :=
    fun r hr => hbinds r (mem_moduleRequests_of_mem_class hr)
  have hstorage : ctx.usesDocumentIdentity c.modelName = true →
      (c.moduleImports contracts ctx resolver (c.classAround ctx fields) messages).Binds
        (.same "ObjectId") storageSource := fun h =>
    hbinds .storage (storage_mem_moduleRequests h) _ (List.mem_singleton.2 rfl)
  constructor
  case decorations =>
    intro a ha
    exact hbinds _ (request_mem_moduleRequests ha) _ (a.mem_bound_request _)
  case serializer => exact ImportSet.mem_statements.2 (Or.inl rfl)
  case superclass =>
    exact hbinds (.core "AbstractModel") (by simp [moduleRequests]) _ (List.mem_singleton.2 rfl)
  case projection =>
    exact hbinds (.transformer "plainToInstance") (by simp [moduleRequests]) _
      (List.mem_singleton.2 rfl)
  case plainData =>
    intro code hcode
    refine hbinds (.transformer "instanceToPlain") ?_ _ (List.mem_singleton.2 rfl)
    exact mem_moduleRequests_of_mem_messages hcode (by simp [MessageCode.requests])
  case hooks =>
    intro hmention
    exact hclass _ (callbacks_mem_requests_of_hooks hmention) _ (List.mem_singleton.2 rfl)
  case callbacks =>
    intro code hcode a ha hsource hmention
    exact hclass _ (callbacks_mem_requests_of_field hfields hcode ha hsource hmention) _
      (List.mem_singleton.2 rfl)
  case identityQuery =>
    intro code hidentity a ha hmention
    have hneeds := graphql_mem_needs_of_identity hidentity ha hmention
    exact hclass _ (mem_requests_of_mem_identity hidentity (List.mem_append_right _ hneeds)) _
      (List.mem_singleton.2 rfl)
  case identityType =>
    intro d hd hmention
    exact hstorage (usesDocumentIdentity_of_identityType hd hmention)
  case interfaceType =>
    intro f hf d hd hmention
    exact (usesDocumentIdentity_or_givesType hcheck hlinks hf hd hmention).imp_left hstorage
  case fieldType =>
    intro f code hzip hmention
    refine (storage_mem_requests_or_givesType hfields hzip hmention).imp_left fun h => ?_
    exact hclass _ h _ (List.mem_singleton.2 rfl)
  case linked =>
    intro f hf hlink
    obtain ⟨t, many, ht, hentry, himported⟩ := exists_target_of_link hcheck hlinks resolver hf hlink
    refine ⟨t, many, ht, hentry, fun hown => ?_⟩
    obtain ⟨u, hu, hmem⟩ := himported hown
    have hboth := hbinds _ (mem_moduleRequests_of_mem_linked hmem)
    exact ⟨u, hu, hboth (.same t.modelName, _) List.mem_cons_self,
      hboth (.same (structureName t.modelName), _) (List.mem_cons_of_mem _ List.mem_cons_self)⟩

/-- A linked field whose target shares its model name with no other target has its names from the
specifier of that target. -/
theorem ImportsClosed.binds_of_unique {m : ModelModule}
    (h : c.ImportsClosed contracts ctx resolver links m) {f : Field} (hf : f ∈ c.fields)
    {t : Contract} (ht : linkTarget? contracts f = some t) (hown : t.modelName ≠ c.modelName)
    (hunique : ∀ g ∈ c.fields, ∀ u, linkTarget? contracts g = some u →
      u.modelName = t.modelName → u = t) :
    m.imports.Binds (.same t.modelName) (c.specifierOf resolver t) ∧
      m.imports.Binds (.same (structureName t.modelName)) (c.specifierOf resolver t) := by
  have hlink : f.link ≠ [] := by
    intro hnil
    rw [linkTarget?, hnil] at ht
    cases ht
  obtain ⟨t', -, ht', -, himported⟩ := h.linked f hf hlink
  obtain rfl : t' = t := Option.some.inj (ht'.symm.trans ht)
  obtain ⟨u, hu, hbinds⟩ := himported hown
  obtain ⟨g, hg, hgu⟩ := List.mem_filterMap.1 (List.mem_of_find?_eq_some hu)
  have hname : u.modelName = t'.modelName := by simpa using List.find?_some hu
  obtain rfl := hunique g hg u hgu hname
  exact hbinds

/-- **Every emitted module imports what it names.** The names of a linked model come from the
specifier of the first target, in the order of the fields, with that model name. -/
theorem importsClosed_of_emitModel {t : String} (h : c.emitModel contracts ctx resolver = .ok t) :
    ∃ m links, c.modelModule contracts ctx resolver = .ok m ∧ t = m.render ∧
      c.resolveLinks contracts = .ok links ∧ c.ImportsClosed contracts ctx resolver links m := by
  obtain ⟨m, hm, rfl⟩ := emitModel_eq_ok_iff.1 h
  obtain ⟨links, fields, messages, hcheck, hlinks, hfields, -, rfl⟩ := modelModule_eq_ok_iff.1 hm
  exact ⟨_, links, hm, rfl, hlinks, importsClosed_moduleAround hcheck hlinks hfields⟩

/-! ## Two targets of one model name -/

/-- A contract whose model is called `Shared`. -/
def firstShared : Contract := named "First" "Shared"

/-- Another contract whose model is called `Shared`, in the project's source tree. -/
def secondShared : Contract :=
  { named "Second" "Shared" with options := some { ContractOptions.empty with moduleContract := true } }

/-- A field linked to the second contract. -/
def secondLink : Field :=
  { Field.plain "second" (.known .string) with link := [.to "Second"], transform := some "lower" }

/-- A contract that is linked to both. -/
def sharer : Contract :=
  { named "Owner" "Owner" with
    fields := [{ Field.plain "first" (.known .string) with link := [.to "First"] }, secondLink]
    messages := [⟨"Shape", [("size", .plain (.known .int32))]⟩] }

/-- Every module is present, and models are stored as documents. -/
def fullContext : EmissionContext := ⟨.ofProbe fun _ => true, .document, "@contractc/core", .strict⟩

/-- A resolver that goes by the name of the target. -/
def nameResolver : Resolver := fun _ target _ => "./" ++ target.contractName

theorem importsClosed_sharer :
    ∃ t, sharer.emitModel [sharer, firstShared, secondShared] fullContext nameResolver = .ok t ∧
      ∃ m links, sharer.modelModule [sharer, firstShared, secondShared] fullContext nameResolver =
          .ok m ∧ t = m.render ∧
        sharer.resolveLinks [sharer, firstShared, secondShared] = .ok links ∧
        sharer.ImportsClosed [sharer, firstShared, secondShared] fullContext nameResolver links m :=
  ⟨_, rfl, importsClosed_of_emitModel rfl⟩

/-- The second of two targets with one model name is not imported from its own specifier: the names are
those of the first. -/
theorem not_binds_secondShared :
    ∃ m, sharer.modelModule [sharer, firstShared, secondShared] fullContext nameResolver = .ok m ∧
      sharer.emitModel [sharer, firstShared, secondShared] fullContext nameResolver =
        .ok m.render ∧
      secondLink ∈ sharer.fields ∧
      linkTarget? [sharer, firstShared, secondShared] secondLink = some secondShared ∧
      secondShared.modelName ≠ sharer.modelName ∧
      ¬m.imports.Binds (.same secondShared.modelName)
        (sharer.specifierOf nameResolver secondShared) := by
  refine ⟨_, rfl, rfl, by decide, rfl, by decide, ?_⟩
  rintro ⟨names, hmem, -⟩
  exact absurd (List.mem_map_of_mem hmem)
    (show "./Second" ∉ List.map ImportStatement.source _ by decide)

end Contract

end ContractCompiler
