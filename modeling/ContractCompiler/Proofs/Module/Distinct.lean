import ContractCompiler.Proofs.Module.Views

/-!
# Distinct members

The members of a model come from three sources: its identity, its declared fields, and the companions
that linked fields have in the interface. A contract is refused when two fields have one key, and a
companion gives way to a field that is declared under its key; but nothing compares a field with the
identity.

* `nodup_fieldKeys` — the interface declares its fields and companions under distinct keys.
* `distinctMembers_of_emitModel` — the members of every view are distinct but for the identity, and
  that has its key for itself unless a field takes it.
* `not_nodup_keyed` — a module that declares its identity twice.
-/

namespace ContractCompiler

/-- The keys are distinct but for that of an identity, and all of them exactly under a condition. -/
structure DistinctIff (identity? : Option String) (keys : List String) (condition : Prop) : Prop where
  others : (keys.filter fun key => some key ≠ identity?).Nodup
  all : keys.Nodup ↔ condition

/-- Distinct keys behind an identity. -/
theorem distinctIff_append {identity? : Option String} {keys : List String} {condition : Prop}
    (hkeys : keys.Nodup) (h : (∀ id ∈ identity?, id ∉ keys) ↔ condition) :
    DistinctIff identity? (identity?.toList ++ keys) condition := by
  cases identity? with
  | none =>
    refine ⟨hkeys.filter _, ?_⟩
    rw [← h]
    simpa using hkeys
  | some id =>
    refine ⟨?_, ?_⟩
    · rw [Option.toList_some, List.singleton_append, List.filter_cons_of_neg (by simp)]
      exact hkeys.filter _
    · rw [← h]
      simp [hkeys]

namespace Contract

variable {c : Contract} {contracts : List Contract} {ctx : EmissionContext} {resolver : Resolver}
  {links : Table LinkTarget} {fields : List (Placed MemberCode)}
  {messages : List (Placed MessageCode)}

/-- The field has the key of the model's identity. -/
def TakesIdentity (c : Contract) (ctx : EmissionContext) (f : Field) : Prop :=
  ctx.identityKey c.modelName = some f.propertyKey

instance (f : Field) : Decidable (c.TakesIdentity ctx f) :=
  inferInstanceAs (Decidable (_ = _))

/-- No field takes the identity exactly when its key is not among those of the fields. -/
theorem forall_not_mem_iff (p : Field → Prop) {keys : List String}
    (h : ∀ id ∈ ctx.identityKey c.modelName, id ∈ keys ↔ ∃ f ∈ c.fields, p f ∧ f.propertyKey = id) :
    (∀ id ∈ ctx.identityKey c.modelName, id ∉ keys) ↔
      ∀ f ∈ c.fields, c.TakesIdentity ctx f → ¬p f := by
  constructor
  · intro hnone f hf htakes hp
    exact hnone f.propertyKey htakes ((h f.propertyKey htakes).2 ⟨f, hf, hp, rfl⟩)
  · intro hall id hid hmem
    obtain ⟨f, hf, hp, rfl⟩ := (h id hid).1 hmem
    exact hall f hf hid hp

/-! ## The interface -/

/-- The keys of the members that the fields have in the interface. -/
def fieldKeys (c : Contract) (ctx : EmissionContext) (links : Table LinkTarget) : List String :=
  c.fields.flatMap fun f => (c.interfaceMembers ctx links f).map MemberDeclaration.key

theorem map_key_interfaceCode (c : Contract) (ctx : EmissionContext) (links : Table LinkTarget) :
    (c.interfaceCode ctx links).members.map MemberDeclaration.key =
      (ctx.identityKey c.modelName).toList ++ c.fieldKeys ctx links := by
  rw [interfaceCode, List.map_append, map_key_identityMember, List.map_flatMap]
  rfl

/-- The key of the companion that a field has in the interface, if it has one. -/
def companionOf (c : Contract) (links : Table LinkTarget) (f : Field) : List String :=
  if (links.get? f.propertyKey).isSome ∧ f.propertyKey ++ "Id" ∉ c.fields.map Field.propertyKey then
    [f.propertyKey ++ "Id"]
  else []

/-- A field whose key is an identifier is declared under it, and so is its companion behind it. -/
theorem map_key_interfaceMembers {f : Field} (h : Text.isIdentifier f.propertyKey = true) :
    (c.interfaceMembers ctx links f).map MemberDeclaration.key =
      f.propertyKey :: c.companionOf links f := by
  rw [interfaceMembers, if_neg (by simp [h]), companionOf]
  cases links.get? f.propertyKey with
  | none => rfl
  | some target =>
    by_cases hdeclared : f.propertyKey ++ "Id" ∈ c.fields.map Field.propertyKey
    · simp only [hdeclared, List.contains_eq_mem]
      rfl
    · simp only [hdeclared, List.contains_eq_mem]
      rfl

theorem interfaceMembers_of_not_identifier {f : Field} (h : Text.isIdentifier f.propertyKey = false) :
    c.interfaceMembers ctx links f = [] := by
  rw [interfaceMembers, if_pos (by simp [h])]

theorem eq_of_mem_companionOf {f : Field} {key : String} (h : key ∈ c.companionOf links f) :
    key = f.propertyKey ++ "Id" ∧ key ∉ c.fields.map Field.propertyKey := by
  unfold companionOf at h
  split at h
  · rename_i hnew
    obtain rfl := List.mem_singleton.1 h
    exact ⟨rfl, hnew.2⟩
  · cases h

/-- A member of the interface that stands for a field has its key, or that of its companion, which no
field has. -/
theorem eq_or_companion_of_mem {f : Field} {key : String}
    (h : key ∈ (c.interfaceMembers ctx links f).map MemberDeclaration.key) :
    key = f.propertyKey ∨
      key = f.propertyKey ++ "Id" ∧ key ∉ c.fields.map Field.propertyKey := by
  cases hkey : Text.isIdentifier f.propertyKey with
  | false =>
    rw [interfaceMembers_of_not_identifier hkey] at h
    cases h
  | true =>
    rw [map_key_interfaceMembers hkey] at h
    rcases List.mem_cons.1 h with h | h
    · exact Or.inl h
    · exact Or.inr (eq_of_mem_companionOf h)

/-- One field is never declared under one key twice. -/
theorem nodup_map_interfaceMembers {f : Field} (hf : f ∈ c.fields) :
    ((c.interfaceMembers ctx links f).map MemberDeclaration.key).Nodup := by
  cases hkey : Text.isIdentifier f.propertyKey with
  | false =>
    rw [interfaceMembers_of_not_identifier hkey]
    exact List.nodup_nil
  | true =>
    rw [map_key_interfaceMembers hkey, List.nodup_cons]
    constructor
    · intro hmem
      exact (eq_of_mem_companionOf hmem).2 (List.mem_map_of_mem hf)
    · unfold companionOf
      split <;> simp

/-- **The interface declares fields and companions under distinct keys.** -/
theorem nodup_fieldKeys (hcheck : c.check = .ok ()) : (c.fieldKeys ctx links).Nodup := by
  have hdistinct : c.fields.Pairwise fun f g => f.propertyKey ≠ g.propertyKey :=
    List.pairwise_map.1 (nodup_of_check hcheck)
  refine List.nodup_flatMap.2 ⟨fun f hf => nodup_map_interfaceMembers hf, ?_⟩
  refine hdistinct.imp_of_mem ?_
  intro f g hf hg hne key hkeyf hkeyg
  rcases eq_or_companion_of_mem hkeyf with hkeyf | ⟨hkeyf, hnewf⟩ <;>
    rcases eq_or_companion_of_mem hkeyg with hkeyg | ⟨hkeyg, hnewg⟩
  · exact hne (hkeyf.symm.trans hkeyg)
  · rw [hkeyf] at hnewg
    exact hnewg (List.mem_map_of_mem hf)
  · rw [hkeyg] at hnewf
    exact hnewf (List.mem_map_of_mem hg)
  · exact hne ((String.append_left_inj "Id").1 (hkeyf.symm.trans hkeyg))

/-- The key of an identity is among those of the interface when a field has it. -/
theorem mem_fieldKeys_iff {id : String} (hid : ctx.identityKey c.modelName = some id) :
    id ∈ c.fieldKeys ctx links ↔ ∃ f ∈ c.fields, True ∧ f.propertyKey = id := by
  constructor
  · intro h
    obtain ⟨f, hf, hkey⟩ := List.mem_flatMap.1 h
    rcases eq_or_companion_of_mem hkey with hkey | ⟨hkey, -⟩
    · exact ⟨f, hf, trivial, hkey.symm⟩
    · exact absurd hkey (identity_ne_companion hid f.propertyKey)
  · rintro ⟨f, hf, -, rfl⟩
    have hidentifier : Text.isIdentifier f.propertyKey = true := by
      rcases EmissionContext.eq_of_identityKey hid with heq | heq <;> rw [heq] <;> decide
    refine List.mem_flatMap.2 ⟨f, hf, ?_⟩
    rw [map_key_interfaceMembers hidentifier]
    exact List.mem_cons_self

/-! ## The class -/

/-- The keys of the fields that a class declares. -/
def emittedKeys (fields : List (Placed MemberCode)) : List String :=
  (fields.filterMap Placed.code?).map fun code => code.declaration.key

theorem map_key_declarations (c : Contract) (ctx : EmissionContext)
    (fields : List (Placed MemberCode)) :
    (c.classAround ctx fields).declarations.map MemberDeclaration.key =
      (ctx.identityKey c.modelName).toList ++ emittedKeys fields := by
  rw [ClassCode.declarations, List.map_append, classAround, map_declaration_identityCode,
    List.map_append, map_key_identityMember, emittedKeys, List.map_map]
  rfl

/-- The field is emitted in the class that holds these parts. -/
def IsEmitted (c : Contract) (fields : List (Placed MemberCode)) (f : Field) : Prop :=
  ∃ code, (f, .emitted code) ∈ c.fields.zip fields

/-- What stands for a field in the class, in the order of the fields. -/
theorem forall₂_placedFields (h : c.placedFields ctx links = .ok fields) :
    List.Forall₂
      (fun f p => ∀ code, p = .emitted code → code.declaration.key = f.propertyKey)
      c.fields fields := by
  refine (Placed.all_eq_ok_iff.1 h).imp ?_
  rintro f p hp code rfl
  obtain ⟨-, -, -, -, -, hdeclaration, -⟩ := Field.code_eq_ok (Placed.ofResult_eq_emitted hp)
  rw [hdeclaration]

/-- A class declares some of the fields, each under its key. -/
theorem emittedKeys_sublist {fs : List Field} {ps : List (Placed MemberCode)}
    (h : List.Forall₂
      (fun f p => ∀ code, p = .emitted code → code.declaration.key = f.propertyKey) fs ps) :
    (emittedKeys ps).Sublist (fs.map Field.propertyKey) := by
  induction h with
  | nil => exact List.Sublist.slnil
  | @cons f p fs ps hp _ ih =>
    cases p with
    | omitted name e => exact ih.cons _
    | emitted code =>
      have hcons : emittedKeys (.emitted code :: ps) = code.declaration.key :: emittedKeys ps := rfl
      rw [hcons, hp code rfl, List.map_cons]
      exact ih.cons_cons _

/-- A key is among those of the class when the field that has it is emitted. -/
theorem mem_emittedKeys_iff (h : c.placedFields ctx links = .ok fields) {key : String} :
    key ∈ emittedKeys fields ↔ ∃ f ∈ c.fields, c.IsEmitted fields f ∧ f.propertyKey = key := by
  obtain ⟨hlength, hkeys⟩ := List.forall₂_iff_zip.1 (forall₂_placedFields h)
  constructor
  · intro hmem
    obtain ⟨code, hcode, rfl⟩ := List.mem_map.1 hmem
    obtain ⟨p, hp, hpcode⟩ := List.mem_filterMap.1 hcode
    obtain rfl := Placed.eq_emitted_of_code? hpcode
    rw [← List.map_snd_zip (Nat.le_of_eq hlength.symm)] at hp
    obtain ⟨⟨f, p⟩, hzip, rfl⟩ := List.mem_map.1 hp
    exact ⟨f, (List.of_mem_zip hzip).1, ⟨code, hzip⟩, (hkeys hzip code rfl).symm⟩
  · rintro ⟨f, -, ⟨code, hzip⟩, rfl⟩
    rw [← hkeys hzip code rfl]
    exact List.mem_map_of_mem (List.mem_filterMap.2 ⟨_, (List.of_mem_zip hzip).2, rfl⟩)

/-! ## All views -/

/-- **The members of a model are distinct but for its identity**, in every view, and the identity is
declared once exactly if no field takes its key: no field at all in the interface and among the
properties of the schema structure, none that is emitted in the class, and none that is required in
the list of what is required. -/
structure DistinctMembers (c : Contract) (ctx : EmissionContext) (m : ModelModule) : Prop where
  interface : DistinctIff (ctx.identityKey c.modelName)
    (m.interfaceCode.members.map MemberDeclaration.key) (∀ f ∈ c.fields, ¬c.TakesIdentity ctx f)
  classCode : DistinctIff (ctx.identityKey c.modelName)
    (m.classCode.declarations.map MemberDeclaration.key)
    (∀ f ∈ c.fields, c.TakesIdentity ctx f → ¬c.IsEmitted m.classCode.fields f)
  properties : ∃ properties, m.schema.get? "properties" = some (.object properties) ∧
    DistinctIff (ctx.identityKey c.modelName) (properties.map Prod.fst)
      (∀ f ∈ c.fields, ¬c.TakesIdentity ctx f)
  required : ∃ keys : List String, m.schema.get? "required" = some (.array (keys.map .text)) ∧
    DistinctIff (ctx.identityKey c.modelName) keys
      (∀ f ∈ c.fields, c.TakesIdentity ctx f → f.nullable = some true)

theorem distinctMembers_moduleAround (hcheck : c.check = .ok ())
    (hfields : c.placedFields ctx links = .ok fields) :
    c.DistinctMembers ctx (c.moduleAround contracts ctx resolver links fields messages) := by
  have hnodup : (c.fields.map Field.propertyKey).Nodup := nodup_of_check hcheck
  constructor
  case interface =>
    rw [moduleAround, map_key_interfaceCode]
    apply distinctIff_append (nodup_fieldKeys hcheck)
    simpa only [not_true] using forall_not_mem_iff (fun _ => True) fun _ hid => mem_fieldKeys_iff hid
  case classCode =>
    rw [moduleAround, map_key_declarations]
    apply distinctIff_append ((emittedKeys_sublist (forall₂_placedFields hfields)).nodup hnodup)
    exact forall_not_mem_iff (c.IsEmitted fields) fun _ _ => mem_emittedKeys_iff hfields
  case properties =>
    refine ⟨_, rfl, ?_⟩
    rw [map_fst_schemaProperties, memberKeys]
    apply distinctIff_append hnodup
    have hkeys : ∀ id ∈ ctx.identityKey c.modelName, id ∈ c.fields.map Field.propertyKey ↔
        ∃ f ∈ c.fields, True ∧ f.propertyKey = id := fun id _ => by simp
    simpa only [not_true] using forall_not_mem_iff (fun _ => True) hkeys
  case required =>
    refine ⟨c.requiredKeys ctx, rfl, ?_⟩
    rw [requiredKeys_eq]
    apply distinctIff_append (hnodup.sublist (List.filter_sublist.map _))
    have hkeys : ∀ id ∈ ctx.identityKey c.modelName,
        id ∈ (c.fields.filter fun f => f.nullable ≠ some true).map Field.propertyKey ↔
          ∃ f ∈ c.fields, f.nullable ≠ some true ∧ f.propertyKey = id := fun id _ => by
      simp [and_assoc]
    simpa only [not_not] using forall_not_mem_iff (fun f => f.nullable ≠ some true) hkeys

/-- **Every emitted module declares its members under distinct keys, but for the identity of its
model**, under either policy; and that too unless a field takes its key. -/
theorem distinctMembers_of_emitModel {t : String} (h : c.emitModel contracts ctx resolver = .ok t) :
    ∃ m, c.modelModule contracts ctx resolver = .ok m ∧ t = m.render ∧ c.DistinctMembers ctx m := by
  obtain ⟨m, hm, rfl⟩ := emitModel_eq_ok_iff.1 h
  obtain ⟨links, fields, messages, hcheck, -, hfields, -, rfl⟩ := modelModule_eq_ok_iff.1 hm
  exact ⟨_, hm, rfl, distinctMembers_moduleAround hcheck hfields⟩

/-- A contract with a field that takes the identity, but may be null and cannot be emitted, and a
linked field whose companion gives way to a declared field. -/
def ledger : Contract :=
  { named "Ledger" "Ledger" with
    fields :=
      [{ Field.plain "_id" (.known .string) with
          nullable := some true, validations := [.ofKind (.name "is id")] },
       { Field.plain "owner" (.known .string) with link := [.to "Ledger"] },
       Field.plain "ownerId" (.known .uuid)] }

theorem distinctMembers_ledger :
    ∃ t, ledger.emitModel [ledger] lenientContext nameResolver = .ok t ∧
      ∃ m, ledger.modelModule [ledger] lenientContext nameResolver = .ok m ∧ t = m.render ∧
        ledger.DistinctMembers lenientContext m :=
  ⟨_, rfl, distinctMembers_of_emitModel rfl⟩

/-- A contract that declares the key of its identity. -/
def keyed : Contract := { named "User" "User" with fields := [Field.plain "id" (.known .string)] }

/-- The contract is well formed and emitted, and its identity is declared twice in every view. -/
theorem not_nodup_keyed :
    keyed.check = .ok () ∧
      ∃ m, keyed.modelModule [keyed] (.ofConfig .default .empty) nameResolver = .ok m ∧
        keyed.emitModel [keyed] (.ofConfig .default .empty) nameResolver = .ok m.render ∧
        ¬(m.interfaceCode.members.map MemberDeclaration.key).Nodup ∧
        ¬(m.classCode.declarations.map MemberDeclaration.key).Nodup ∧
        (∃ properties, m.schema.get? "properties" = some (.object properties) ∧
          ¬(properties.map Prod.fst).Nodup) ∧
        m.schema.get? "required" = some (.array [.text "id", .text "id"]) :=
  ⟨rfl, _, rfl, rfl, by decide, by decide, ⟨_, rfl, by decide⟩, rfl⟩

end Contract

end ContractCompiler
