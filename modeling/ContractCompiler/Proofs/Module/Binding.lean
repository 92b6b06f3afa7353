import ContractCompiler.Proofs.Module.Closure
import ContractCompiler.Proofs.Module.Origin

/-!
# Names that a module binds

A module binds the names of its import block, the class and the two constants of its model, and the
classes of its messages. The import block keeps the names of one origin apart, and nothing compares
an origin with another or with what the module declares.

* `own_or_given_of_mem_moduleRequests` — a module asks for names of emission's own, and for names
  that the contract gives.
* `boundOnce_iff_of_emitModel` — a name is bound once exactly when it does not clash, and a name that
  clashes is one that the contract gives.
* `count_isEmail_mailbox` — such a name, bound twice.
-/

namespace ContractCompiler

/-! ## What a module asks for -/

/-- The requests for the names of emission's own. -/
def ownRequests : List ImportRequest :=
  [.core "AbstractModel", .core "IsUnique", .core "Callbacks",
    .transformer "Expose", .transformer "Exclude", .transformer "Type", .transformer "Transform",
    .transformer "plainToInstance", .transformer "instanceToPlain",
    .validator "IsNotEmpty", .validator "IsOptional", .storage,
    .openapi "ApiProperty", .openapi "ApiHideProperty",
    .graphql "ObjectType", .graphql "Field", .graphql "ID"]

/-- Emission's own names are told apart, and none is called as the serializer is. -/
theorem eq_of_mem_ownRequests :
    ∀ r ∈ ownRequests, ∀ q ∈ ownRequests, ∀ n ∈ r.bindings, n ∈ q.bindings → r = q := by
  decide

theorem tidy_of_mem_ownRequests : ∀ r ∈ ownRequests, r.Tidy ∧ "fastJson" ∉ r.bindings := by
  simp [ownRequests, ImportRequest.Tidy, ImportRequest.bindings, graphqlBinding]

namespace Contract

/-- The requests for names that the contract gives: those of validations, of decorations with their
sources, of imports, and of the models that its fields are linked to. -/
inductive GivenRequest (c : Contract) (contracts : List Contract) : ImportRequest → Prop where
  | validation {f : Field} (hf : f ∈ c.fields) {v : Validation} (hv : v ∈ f.validations)
      {name : String} (hname : v.name? = some name) : GivenRequest c contracts (.validator name)
  | decorator {f : Field} (hf : f ∈ c.fields) {d : String × Decorator} (hd : d ∈ f.decorators) :
      GivenRequest c contracts (.custom d.2.source d.1)
  | wholeModule {source : String} (h : source ∈ c.imports) :
      GivenRequest c contracts (.wholeModule (moduleBinding source) source)
  | linked {f : Field} (hf : f ∈ c.fields) {t : Contract} (ht : linkTarget? contracts f = some t)
      (specifier : String) :
      GivenRequest c contracts (.linked specifier [t.modelName, structureName t.modelName])

end Contract

namespace Field

variable {f : Field} {ctx : EmissionContext} {link : Option LinkTarget} {code : MemberCode}

theorem request_of_mem_callbacks {a : Decoration} (ha : a ∈ f.callbacks) :
    a.request = .transformer "Transform" := by
  have hcallback {direction : String} {key : Option String} (h : a ∈ callback direction key) :
      a.request = .transformer "Transform" := by
    cases key with
    | none => cases h
    | some key =>
      rw [List.mem_singleton.1 h]
      rfl
  rcases List.mem_append.1 ha with h | h <;> exact hcallback h

theorem mem_ownRequests_of_mem_extraNeeds {r : ImportRequest} (h : r ∈ f.extraNeeds ctx link) :
    r ∈ ownRequests := by
  rcases List.mem_append.1 h with h | h
  · obtain ⟨-, h⟩ := List.mem_ite_nil_right.1 h
    rw [List.mem_singleton.1 h]
    decide
  · cases link with
    | none => cases h
    | some target =>
      obtain ⟨-, h⟩ := List.mem_ite_nil_right.1 h
      rw [List.mem_singleton.1 h]
      decide

theorem mem_ownRequests_of_mem_documentation {capabilities : CapabilitySet} {doc : String}
    {a : Decoration} (h : a ∈ f.documentation capabilities doc) : a.request ∈ ownRequests := by
  unfold documentation at h
  simp only [List.mem_append, List.mem_ite_nil_right, List.mem_singleton] at h
  rcases h with ⟨-, rfl⟩ | ⟨-, rfl⟩
  · split <;> simp [Decoration.request, Decoration.apiProperty, ownRequests]
  · simp [Decoration.request, Decoration.graphField, ownRequests]

/-- A field asks for emission's own names, and for those of its validations and decorations. -/
theorem own_or_given_of_code (h : f.code ctx link = .ok code) {r : ImportRequest}
    (hr : r ∈ code.requests) :
    r ∈ ownRequests ∨ (∃ v ∈ f.validations, ∃ name, v.name? = some name ∧ r = .validator name) ∨
      ∃ d ∈ f.decorators, r = .custom d.2.source d.1 := by
  obtain ⟨decorators, validations, hd, hv, hdecorations, -, hneeds⟩ := code_eq_ok h
  rw [MemberCode.requests, hdecorations, hneeds, List.mem_append, List.mem_map] at hr
  rcases hr with ⟨a, ha, rfl⟩ | hr
  · simp only [List.mem_append, List.mem_singleton, or_assoc] at ha
    rcases ha with rfl | ha | ha | ha | ha | ha
    · left
      unfold exposure
      split <;> simp [Decoration.request, Decoration.expose, ownRequests]
    · left
      unfold constraints at ha
      simp only [List.mem_append, List.mem_ite_nil_right, List.mem_singleton, or_assoc] at ha
      rcases ha with ⟨-, rfl⟩ | ⟨-, rfl⟩ | ⟨-, rfl⟩ <;> simp [Decoration.request, ownRequests]
    · obtain ⟨d, hd, hname, hsource⟩ := exists_of_mem_decorationsOf hd ha
      exact Or.inr (Or.inr ⟨d, hd, by rw [Decoration.request, hsource, hname]⟩)
    · obtain ⟨v, hv, hname, hsource⟩ := Validation.exists_of_mem_decorations hv ha
      exact Or.inr (Or.inl ⟨v, hv, a.name, hname, by rw [Decoration.request, hsource]⟩)
    · exact Or.inl (mem_ownRequests_of_mem_documentation ha)
    · left
      rw [request_of_mem_callbacks ha]
      decide
  · exact Or.inl (mem_ownRequests_of_mem_extraNeeds hr)

end Field

/-- The code of a message that can be emitted. -/
theorem Message.code_eq_ok {m : Message} {capabilities : CapabilitySet} {code : MessageCode}
    (h : m.code capabilities = .ok code) :
    code = ⟨m.name, m.className, m.properties.map fun p => p.2.interfaceMember p.1,
      m.properties.map fun p => p.2.code capabilities p.1⟩ := by
  unfold Message.code at h
  split at h
  · cases h
  · split at h
    · cases h
    · cases h
      rfl

/-- A message asks for emission's own names. -/
theorem Message.mem_ownRequests_of_code {m : Message} {capabilities : CapabilitySet}
    {code : MessageCode} (h : m.code capabilities = .ok code) {r : ImportRequest}
    (hr : r ∈ code.requests) : r ∈ ownRequests := by
  rw [Message.code_eq_ok h, MessageCode.requests, List.mem_append] at hr
  rcases hr with hr | hr
  · revert r
    decide
  · obtain ⟨member, hmember, hr⟩ := List.mem_flatMap.1 hr
    obtain ⟨p, -, rfl⟩ := List.mem_map.1 hmember
    simp only [MemberCode.requests, Property.code, List.append_nil, List.mem_map, List.mem_append,
      List.mem_ite_nil_right, List.mem_singleton] at hr
    rcases hr with ⟨a, ⟨-, rfl⟩ | rfl, rfl⟩
    · simp [Decoration.request, Decoration.apiProperty, ownRequests]
    · decide

namespace Contract

variable {c : Contract} {contracts : List Contract} {ctx : EmissionContext} {resolver : Resolver}
  {links : Table LinkTarget} {fields : List (Placed MemberCode)}
  {messages : List (Placed MessageCode)}

theorem given_of_mem_linkedRequests {part : List Field} (hpart : ∀ f ∈ part, f ∈ c.fields)
    {r : ImportRequest} :
    ∀ {seen : List String}, r ∈ c.linkedRequests contracts resolver seen part →
      c.GivenRequest contracts r := by
  induction part with
  | nil =>
    intro seen hr
    cases hr
  | cons f rest ih =>
    obtain ⟨hf, hrest⟩ := List.forall_mem_cons.1 hpart
    intro seen hr
    rw [linkedRequests_cons] at hr
    split at hr
    · exact ih hrest hr
    · rename_i t ht
      split at hr
      · exact ih hrest hr
      · rcases List.mem_cons.1 hr with rfl | hr
        · exact .linked hf ht _
        · exact ih hrest hr

theorem mem_ownRequests_of_identity {code : MemberCode} (h : c.identityCode ctx = some code)
    {r : ImportRequest} (hr : r ∈ code.requests) : r ∈ ownRequests := by
  obtain ⟨id, -, rfl⟩ := Option.map_eq_some_iff.1 h
  simp only [MemberCode.requests, List.mem_append, List.mem_map, List.mem_cons, List.not_mem_nil,
    or_false, List.mem_ite_nil_right] at hr
  rcases hr with ⟨a, ((rfl | rfl) | ⟨-, rfl⟩) | ⟨-, rfl⟩, rfl⟩ | ⟨-, rfl⟩
  · decide
  · decide
  · simp [Decoration.request, Decoration.apiProperty, ownRequests]
  · simp [Decoration.request, Decoration.graphField, ownRequests]
  · decide

/-- The class of a model asks for emission's own names, and for those that its fields give. -/
theorem own_or_given_of_mem_class (hfields : c.placedFields ctx links = .ok fields)
    {r : ImportRequest} (hr : r ∈ (c.classAround ctx fields).requests) :
    r ∈ ownRequests ∨ c.GivenRequest contracts r := by
  simp only [ClassCode.requests, List.mem_append, List.mem_flatMap, Option.mem_toList, List.mem_map,
    or_assoc] at hr
  rcases hr with ⟨a, ha, rfl⟩ | ⟨code, hcode, hr⟩ | ⟨code, hcode, hr⟩ | hr
  · obtain ⟨-, ha⟩ := List.mem_ite_nil_right.1 ha
    rw [List.mem_singleton.1 ha]
    exact Or.inl (by decide)
  · exact Or.inl (mem_ownRequests_of_identity hcode hr)
  · obtain ⟨f, hf, hcode⟩ := Placed.exists_of_mem_codes hfields hcode
    rcases Field.own_or_given_of_code hcode hr with
      hown | ⟨v, hv, name, hname, rfl⟩ | ⟨d, hd, rfl⟩
    · exact Or.inl hown
    · exact Or.inr (.validation hf hv hname)
    · exact Or.inr (.decorator hf hd)
  · split at hr
    · cases hr
    · rw [List.mem_singleton.1 hr]
      exact Or.inl (by decide)

/-- **A module asks for emission's own names and for names that the contract gives.** -/
theorem own_or_given_of_mem_moduleRequests (hfields : c.placedFields ctx links = .ok fields)
    (hmessages : c.placedMessages ctx = .ok messages) {r : ImportRequest}
    (hr : r ∈ c.moduleRequests contracts ctx resolver (c.classAround ctx fields) messages) :
    r ∈ ownRequests ∨ c.GivenRequest contracts r := by
  simp only [moduleRequests, List.mem_append, or_assoc] at hr
  rcases hr with hr | hr | hr | hr | hr | hr
  · left
    revert r
    decide
  · obtain ⟨-, hr⟩ := List.mem_ite_nil_right.1 hr
    rw [List.mem_singleton.1 hr]
    exact Or.inl (by decide)
  · exact Or.inr (given_of_mem_linkedRequests (fun _ h => h) hr)
  · obtain ⟨source, hsource, hr⟩ := List.mem_flatMap.1 hr
    obtain ⟨-, hr⟩ := List.mem_ite_nil_right.1 hr
    rw [List.mem_singleton.1 hr]
    exact Or.inr (.wholeModule hsource)
  · exact own_or_given_of_mem_class hfields hr
  · obtain ⟨code, hcode, hr⟩ := List.mem_flatMap.1 hr
    obtain ⟨m, -, hcode⟩ := Placed.exists_of_mem_codes hmessages hcode
    exact Or.inl (Message.mem_ownRequests_of_code hcode hr)

end Contract

/-! ## What a module binds -/

namespace ModelModule

/-- The values that a module declares: the class and the constants of its model, and the classes of
its messages. -/
def declaredNames (m : ModelModule) : List String :=
  [m.classCode.model, structureName m.model, serializerName m.model] ++
    (m.messages.filterMap Placed.code?).map MessageCode.className

/-- The values that a module binds: those of its import block, and those that it declares. -/
def boundNames (m : ModelModule) : List String :=
  m.imports.statements.flatMap ImportStatement.bindings ++ m.declaredNames

end ModelModule

namespace Contract

/-- The name is one that the contract gives: it is asked for by the contract, it is called after the
model, or after a message. -/
def GivesName (c : Contract) (contracts : List Contract) (n : String) : Prop :=
  (∃ r, c.GivenRequest contracts r ∧ n ∈ r.bindings) ∨
    n ∈ [c.modelName, structureName c.modelName, serializerName c.modelName] ∨
    ∃ m ∈ c.messages, n = m.className

end Contract

/-- **The ways in which a name is bound twice**: it is declared twice, or called as the serializer is;
it is asked for and declared; or it is asked for from two origins. -/
inductive NameClash (coreImport : String) (requests : List ImportRequest) (declared : List String)
    (n : String) : Prop where
  | declared (h : 1 < declared.count n)
  | taken {r : ImportRequest} (hr : r ∈ requests) (hn : n ∈ r.bindings) (h : n ∈ declared)
  | imported {r q : ImportRequest} (hr : r ∈ requests) (hq : q ∈ requests) (hn : n ∈ r.bindings)
      (hn' : n ∈ q.bindings) (horigin : r.origin coreImport ≠ q.origin coreImport)

namespace ImportSet

/-- What the import block of tidy requests binds, and what is declared beside it, is bound once exactly
where it does not clash. -/
theorem count_bindings_append_le_one_iff {coreImport : String} {requests : List ImportRequest}
    {declared : List String} (htidy : ∀ r ∈ requests, r.Tidy) {n : String} :
    (((empty coreImport).addAll requests).statements.flatMap ImportStatement.bindings ++
        declared).count n ≤ 1 ↔ ¬NameClash coreImport requests ("fastJson" :: declared) n := by
  have hgroups := count_groups_le_one_iff (n := n) (Tidy.addAll htidy (tidy_empty coreImport))
  have hmem : n ∈ ((empty coreImport).addAll requests).groups.flatMap Prod.snd ↔
      ∃ r ∈ requests, n ∈ r.bindings := by
    simp only [mem_flatMap_groups, holds_addAll_empty]
    exact ⟨fun ⟨_, r, hr, _, hn⟩ => ⟨r, hr, hn⟩, fun ⟨r, hr, hn⟩ => ⟨_, r, hr, rfl, hn⟩⟩
  simp only [holds_addAll_empty] at hgroups
  -- the serializer is counted with what is declared, since its statement belongs to no group
  have hcount : (((empty coreImport).addAll requests).statements.flatMap
      ImportStatement.bindings ++ declared).count n =
        (((empty coreImport).addAll requests).groups.flatMap Prod.snd).count n +
          ("fastJson" :: declared).count n := by
    rw [bindings_statements, List.cons_append, List.count_cons, List.count_append, List.count_cons]
    omega
  rw [hcount]
  constructor
  · intro hle hclash
    cases hclash with
    | declared h => omega
    | taken hr hn h =>
      have himported := List.count_pos_iff.2 (hmem.2 ⟨_, hr, hn⟩)
      have hdeclared := List.count_pos_iff.2 h
      omega
    | imported hr hq hn hn' horigin =>
      exact horigin (hgroups.1 (by omega) _ _ ⟨_, hr, rfl, hn⟩ ⟨_, hq, rfl, hn'⟩)
  · intro hnone
    by_cases h : n ∈ "fastJson" :: declared
    · have hfree : n ∉ ((empty coreImport).addAll requests).groups.flatMap Prod.snd := by
        intro hn
        obtain ⟨r, hr, hn⟩ := hmem.1 hn
        exact hnone (.taken hr hn h)
      rw [List.count_eq_zero_of_not_mem hfree, Nat.zero_add]
      exact Nat.not_lt.1 fun h => hnone (.declared h)
    · rw [List.count_eq_zero_of_not_mem h, Nat.add_zero, hgroups]
      rintro _ _ ⟨r, hr, rfl, hn⟩ ⟨q, hq, rfl, hn'⟩
      by_contra horigin
      exact hnone (.imported hr hq hn hn' horigin)

end ImportSet

theorem structureName_ne (model : String) : structureName model ≠ model := by
  intro h
  have hlength := congrArg String.length h
  simp [structureName] at hlength

namespace Contract

variable {c : Contract} {contracts : List Contract} {ctx : EmissionContext} {resolver : Resolver}
  {links : Table LinkTarget} {fields : List (Placed MemberCode)}
  {messages : List (Placed MessageCode)} {n : String}

theorem GivenRequest.tidy {r : ImportRequest} (h : c.GivenRequest contracts r) : r.Tidy := by
  cases h with
  | validation | decorator | wholeModule => trivial
  | linked _ _ specifier =>
    exact List.nodup_cons.2 ⟨by simpa using (structureName_ne _).symm, List.nodup_singleton _⟩

/-- What a module declares is called after the contract's model or after one of its messages. -/
theorem givesName_of_declared (hmessages : c.placedMessages ctx = .ok messages)
    (h : n ∈ (c.moduleAround contracts ctx resolver links fields messages).declaredNames) :
    c.GivesName contracts n := by
  rcases List.mem_append.1 h with h | h
  · exact Or.inr (Or.inl h)
  · obtain ⟨code, hcode, rfl⟩ := List.mem_map.1 h
    obtain ⟨m, hm, hcode⟩ := Placed.exists_of_mem_codes hmessages hcode
    rw [Message.code_eq_ok hcode]
    exact Or.inr (Or.inr ⟨m, hm, rfl⟩)

/-- **A name that clashes is one that the contract gives.** -/
theorem givesName_of_clash (hfields : c.placedFields ctx links = .ok fields)
    (hmessages : c.placedMessages ctx = .ok messages)
    (h : NameClash ctx.coreImport
      (c.moduleRequests contracts ctx resolver (c.classAround ctx fields) messages)
      ("fastJson" :: (c.moduleAround contracts ctx resolver links fields messages).declaredNames) n) :
    c.GivesName contracts n := by
  cases h with
  | declared h =>
    have hmem : n ∈ (c.moduleAround contracts ctx resolver links fields messages).declaredNames := by
      by_contra hnot
      rw [List.count_cons, List.count_eq_zero_of_not_mem hnot] at h
      split at h <;> omega
    exact givesName_of_declared hmessages hmem
  | taken hr hn h =>
    rcases List.mem_cons.1 h with rfl | h
    · rcases own_or_given_of_mem_moduleRequests hfields hmessages hr with hown | hgiven
      · exact absurd hn (tidy_of_mem_ownRequests _ hown).2
      · exact Or.inl ⟨_, hgiven, hn⟩
    · exact givesName_of_declared hmessages h
  | imported hr hq hn hn' horigin =>
    rcases own_or_given_of_mem_moduleRequests hfields hmessages hr with hr | hgiven
    · rcases own_or_given_of_mem_moduleRequests hfields hmessages hq with hq | hgiven
      · obtain rfl := eq_of_mem_ownRequests _ hr _ hq _ hn hn'
        exact absurd rfl horigin
      · exact Or.inl ⟨_, hgiven, hn'⟩
    · exact Or.inl ⟨_, hgiven, hn⟩

/-- The clashes of a module. -/
def Clash (c : Contract) (contracts : List Contract) (ctx : EmissionContext) (resolver : Resolver)
    (m : ModelModule) : String → Prop :=
  NameClash ctx.coreImport (c.moduleRequests contracts ctx resolver m.classCode m.messages)
    ("fastJson" :: m.declaredNames)

/-- **An emitted module binds a name once exactly when the name does not clash**, and a name that
clashes is one that the contract gives. -/
theorem boundOnce_iff_of_emitModel {t : String} (h : c.emitModel contracts ctx resolver = .ok t) :
    ∃ m, c.modelModule contracts ctx resolver = .ok m ∧ t = m.render ∧
      ∀ n, (m.boundNames.count n ≤ 1 ↔ ¬c.Clash contracts ctx resolver m n) ∧
        (c.Clash contracts ctx resolver m n → c.GivesName contracts n) := by
  obtain ⟨m, hm, rfl⟩ := emitModel_eq_ok_iff.1 h
  obtain ⟨links, fields, messages, -, -, hfields, hmessages, rfl⟩ := modelModule_eq_ok_iff.1 hm
  refine ⟨_, hm, rfl, fun n => ⟨?_, givesName_of_clash hfields hmessages⟩⟩
  have htidy : ∀ r ∈ c.moduleRequests contracts ctx resolver (c.classAround ctx fields) messages,
      r.Tidy := by
    intro r hr
    rcases own_or_given_of_mem_moduleRequests hfields hmessages hr with hown | hgiven
    · exact (tidy_of_mem_ownRequests r hown).1
    · exact hgiven.tidy
  have himports : (c.moduleAround contracts ctx resolver links fields messages).imports =
      (ImportSet.empty ctx.coreImport).addAll
        (c.moduleRequests contracts ctx resolver (c.classAround ctx fields) messages) :=
    moduleImports_eq
  rw [ModelModule.boundNames, himports]
  exact ImportSet.count_bindings_append_le_one_iff htidy

/-! ## A name from two origins -/

/-- A user with two addresses: one is validated by a decoration of the validator, the other asks for
the same decoration by its source. -/
def mailbox : Contract :=
  { named "User" "User" with
    fields :=
      [{ Field.plain "email" (.known .string) with validations := [.ofKind (.name "IsEmail")] },
        { Field.plain "backup" (.known .string) with
          decorators := [("IsEmail", ⟨"class-validator", none⟩)] }] }

theorem boundOnce_iff_mailbox :
    ∃ t, mailbox.emitModel [mailbox] (.ofConfig .default .empty) nameResolver = .ok t ∧
      ∃ m, mailbox.modelModule [mailbox] (.ofConfig .default .empty) nameResolver = .ok m ∧
        t = m.render ∧
        ∀ n, (m.boundNames.count n ≤ 1 ↔
            ¬mailbox.Clash [mailbox] (.ofConfig .default .empty) nameResolver m n) ∧
          (mailbox.Clash [mailbox] (.ofConfig .default .empty) nameResolver m n →
            mailbox.GivesName [mailbox] n) :=
  ⟨_, rfl, boundOnce_iff_of_emitModel rfl⟩

/-- The module imports the decoration twice, both times from the validator. -/
theorem count_isEmail_mailbox :
    ∃ m, mailbox.modelModule [mailbox] (.ofConfig .default .empty) nameResolver = .ok m ∧
      mailbox.emitModel [mailbox] (.ofConfig .default .empty) nameResolver = .ok m.render ∧
      m.boundNames.count "IsEmail" = 2 := by
  refine ⟨_, rfl, rfl, ?_⟩
  decide

end Contract

end ContractCompiler
