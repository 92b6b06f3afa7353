import Mathlib.Data.List.Nodup
import ContractCompiler.Proofs.Module.Closure

/-!
# Three views of one model

A module declares its model three times: as an interface, as a class and as a schema structure. Each
view is written by a loop of its own over the fields of the contract, with conditions of its own, so
that they agree has to be proved. `Field.DeclaredBy` is what a view says of one field.

* `exists_ownMembers` — the interface declares the fields whose keys are identifiers.
* `exists_declarations` — the class of the strict policy declares every field.
* `viewsAgree_of_emitModel` — under the strict policy the three views agree.
* `leftOut_of_emitModel` — what is left of a field that a comment stands for.
-/

namespace ContractCompiler

/-- The declaration stands for the field: it has its key and, where the field is not linked, its
optionality and its type. -/
structure Field.DeclaredBy (f : Field) (d : MemberDeclaration) : Prop where
  key : d.key = f.propertyKey
  plain : f.link = [] → d.optional = f.isOptional ∧ d.type = f.declaredType

theorem Field.map_key_of_declaredBy {fields : List Field} {ds : List MemberDeclaration}
    (h : List.Forall₂ Field.DeclaredBy fields ds) :
    ds.map MemberDeclaration.key = fields.map Field.propertyKey := by
  induction h with
  | nil => rfl
  | cons hd _ ih => rw [List.map_cons, List.map_cons, hd.key, ih]

/-- The members that a class declares: its identity, then the fields that could be emitted. -/
def ClassCode.declarations (c : ClassCode) : List MemberDeclaration :=
  (c.identity.toList ++ c.fields.filterMap Placed.code?).map MemberCode.declaration

/-- A field that can be emitted has an identifier as its key. -/
theorem Field.isIdentifier_of_code {f : Field} {ctx : EmissionContext} {link : Option LinkTarget}
    {code : MemberCode} (h : f.code ctx link = .ok code) : Text.isIdentifier f.propertyKey = true := by
  unfold Field.code at h
  split at h
  · cases h
  · rename_i hkey
    simpa using hkey

/-- An identity has one of two keys. -/
theorem EmissionContext.eq_of_identityKey {ctx : EmissionContext} {model id : String}
    (h : ctx.identityKey model = some id) : id = "_id" ∨ id = "id" := by
  unfold identityKey at h
  split at h
  · cases h
  · split at h
    · exact Or.inl (Option.some.inj h).symm
    · exact Or.inr (Option.some.inj h).symm

/-- An identifier goes on with characters that may continue one. -/
theorem Text.isIdentifier_append {a b : String} (ha : isIdentifier a = true)
    (hb : b.toList.all continuesIdentifier = true) : isIdentifier (a ++ b) = true := by
  unfold isIdentifier at ha ⊢
  rw [String.toList_append]
  cases h : a.toList with
  | nil =>
    rw [h] at ha
    cases ha
  | cons x xs =>
    rw [h] at ha
    simp only [formsIdentifier, List.cons_append, List.all_append, Bool.and_eq_true] at ha ⊢
    exact ⟨ha.1, ha.2, hb⟩

namespace Contract

variable {c : Contract} {contracts : List Contract} {ctx : EmissionContext} {resolver : Resolver}
  {links : Table LinkTarget}

def memberKeys (c : Contract) (ctx : EmissionContext) : List String :=
  (ctx.identityKey c.modelName).toList ++ c.fields.map Field.propertyKey

/-! ## The interface -/

/-- The keys of the companions that the interface has for linked fields. -/
def companionKeys (c : Contract) : List String :=
  ((c.fields.filter fun f => f.link ≠ []).map fun f => f.propertyKey ++ "Id").filter fun key =>
    key ∉ c.fields.map Field.propertyKey

/-- The member of the interface is no companion. -/
def isOwn (c : Contract) (d : MemberDeclaration) : Bool := d.key ∉ c.companionKeys

/-- The members of an interface besides companions. -/
def ownMembers (c : Contract) (i : InterfaceCode) : List MemberDeclaration := i.members.filter c.isOwn

theorem mem_companionKeys {key : String} :
    key ∈ c.companionKeys ↔ (∃ f ∈ c.fields, f.link ≠ [] ∧ f.propertyKey ++ "Id" = key) ∧
      key ∉ c.fields.map Field.propertyKey := by
  simp only [companionKeys, List.mem_filter, List.mem_map, decide_eq_true_eq, and_assoc]

theorem isOwn_iff {d : MemberDeclaration} : c.isOwn d = true ↔ d.key ∉ c.companionKeys :=
  decide_eq_true_iff

theorem isOwn_of_field {f : Field} (hf : f ∈ c.fields) {d : MemberDeclaration}
    (hd : d.key = f.propertyKey) : c.isOwn d = true := by
  rw [isOwn_iff, hd, mem_companionKeys]
  exact fun h => h.2 (List.mem_map_of_mem hf)

/-- The companion of a linked field is not an own member of the interface. -/
theorem not_isOwn_of_companion {f : Field} (hf : f ∈ c.fields) (hlink : f.link ≠ [])
    (hnew : f.propertyKey ++ "Id" ∉ c.fields.map Field.propertyKey) {d : MemberDeclaration}
    (hd : d.key = f.propertyKey ++ "Id") : ¬c.isOwn d = true := by
  rw [isOwn_iff, not_not, hd, mem_companionKeys]
  exact ⟨⟨f, hf, hlink, rfl⟩, hnew⟩

/-- The key of an identity is that of no companion. -/
theorem identity_ne_companion {id : String} (hid : ctx.identityKey c.modelName = some id)
    (key : String) : id ≠ key ++ "Id" := by
  have hend : ¬"Id".toList <:+ id.toList := by
    rcases EmissionContext.eq_of_identityKey hid with rfl | rfl <;> decide
  rintro rfl
  apply hend
  rw [String.toList_append]
  exact List.suffix_append _ _

/-- The identity is not taken for a companion. -/
theorem isOwn_of_identity {d : MemberDeclaration} (hd : d ∈ c.identityMember ctx) :
    c.isOwn d = true := by
  obtain ⟨id, hid, rfl⟩ := List.mem_map.1 hd
  rw [isOwn_iff, mem_companionKeys]
  rintro ⟨⟨f, -, -, hkey⟩, -⟩
  exact identity_ne_companion (Option.mem_toList.1 hid) f.propertyKey hkey.symm

/-- A field whose key is an identifier has one member of its own in the interface. -/
theorem exists_ownMember (ctx : EmissionContext) (hcheck : c.check = .ok ())
    (hlinks : c.resolveLinks contracts = .ok links) {f : Field} (hf : f ∈ c.fields)
    (hkey : Text.isIdentifier f.propertyKey = true) :
    ∃ d, (c.interfaceMembers ctx links f).filter c.isOwn = [d] ∧ f.DeclaredBy d := by
  have hentry := get?_resolveLinks hcheck hlinks hf
  unfold interfaceMembers
  rw [if_neg (by simp [hkey])]
  cases hlink : links.get? f.propertyKey with
  | none =>
    refine ⟨⟨f.propertyKey, f.isOptional, f.declaredType, none⟩, ?_, rfl, fun _ => ⟨rfl, rfl⟩⟩
    exact List.filter_cons_of_pos (isOwn_of_field hf rfl)
  | some target =>
    -- an entry stands for a linked field only, so nothing is asked of optionality and type
    have hlinked : f.link ≠ [] := by
      rw [hlink] at hentry
      exact mt hentry.eq_none_iff.2 (Option.some_ne_none target)
    dsimp only
    rw [List.filter_cons_of_pos (isOwn_of_field hf rfl)]
    refine ⟨_, congrArg _ ?_, ⟨rfl, fun hnil => absurd hnil hlinked⟩⟩
    split
    · rfl
    · rename_i hnew
      exact List.filter_cons_of_neg (not_isOwn_of_companion hf hlinked (by simpa using hnew) rfl)

/-- **The interface declares the identity, then the fields whose keys are identifiers**, in their
order. -/
theorem exists_ownMembers (ctx : EmissionContext) (hcheck : c.check = .ok ())
    (hlinks : c.resolveLinks contracts = .ok links) :
    ∃ ds, c.ownMembers (c.interfaceCode ctx links) = c.identityMember ctx ++ ds ∧
      List.Forall₂ Field.DeclaredBy (c.fields.filter fun f => Text.isIdentifier f.propertyKey)
        ds := by
  have hfields : ∀ fields : List Field, (∀ f ∈ fields, f ∈ c.fields) →
      ∃ ds, (fields.flatMap (c.interfaceMembers ctx links)).filter c.isOwn = ds ∧
        List.Forall₂ Field.DeclaredBy (fields.filter fun f => Text.isIdentifier f.propertyKey)
          ds := by
    intro fields
    induction fields with
    | nil => exact fun _ => ⟨[], rfl, .nil⟩
    | cons f rest ih =>
      intro hmem
      obtain ⟨hf, hrest⟩ := List.forall_mem_cons.1 hmem
      obtain ⟨ds, hds, hall⟩ := ih hrest
      rw [List.flatMap_cons, List.filter_append, hds]
      by_cases hkey : Text.isIdentifier f.propertyKey = true
      · obtain ⟨d, hd, hdeclared⟩ := exists_ownMember ctx hcheck hlinks hf hkey
        rw [hd, List.filter_cons_of_pos (by simpa using hkey)]
        exact ⟨_, rfl, .cons hdeclared hall⟩
      · have hnone : c.interfaceMembers ctx links f = [] := by
          unfold interfaceMembers
          rw [if_pos (by simpa using hkey)]
        rw [hnone, List.filter_cons_of_neg (by simpa using hkey)]
        exact ⟨ds, rfl, hall⟩
  obtain ⟨ds, hds, hall⟩ := hfields c.fields fun _ hf => hf
  refine ⟨ds, ?_, hall⟩
  rw [ownMembers, interfaceCode, List.filter_append, hds,
    List.filter_eq_self.2 fun d hd => isOwn_of_identity hd]

/-! ## The class -/

/-- The identity is declared by the class as by the interface. -/
theorem map_declaration_identityCode (c : Contract) (ctx : EmissionContext) :
    (c.identityCode ctx).toList.map MemberCode.declaration = c.identityMember ctx := by
  unfold identityCode identityMember
  cases ctx.identityKey c.modelName <;> rfl

/-- A class from which no field is left out declares the identity, then every field. -/
theorem declarations_of_emitted (c : Contract) (ctx : EmissionContext) (codes : List MemberCode) :
    (c.classAround ctx (codes.map Placed.emitted)).declarations =
      c.identityMember ctx ++ codes.map MemberCode.declaration := by
  have hemitted : (codes.map Placed.emitted).filterMap Placed.code? = codes := by
    rw [List.filterMap_map]
    exact List.filterMap_some
  rw [ClassCode.declarations, List.map_append]
  exact congrArg₂ _ (map_declaration_identityCode c ctx) (congrArg _ hemitted)

/-- The code of a field declares it. -/
theorem declaredBy_of_code {f : Field} {code : MemberCode}
    (hentry : HasEntry contracts f (links.get? f.propertyKey))
    (h : f.code ctx (links.get? f.propertyKey) = .ok code) : f.DeclaredBy code.declaration := by
  obtain ⟨-, -, -, -, -, hdeclaration, -⟩ := Field.code_eq_ok h
  rw [hdeclaration]
  refine ⟨rfl, fun hnil => ⟨rfl, ?_⟩⟩
  dsimp only
  rw [hentry.eq_none_iff.2 hnil]
  rfl

/-- **The class of the strict policy declares the identity, then every field**, in their order. -/
theorem exists_declarations {fields : List (Placed MemberCode)} (hpolicy : ctx.policy = .strict)
    (hcheck : c.check = .ok ()) (hlinks : c.resolveLinks contracts = .ok links)
    (hfields : c.placedFields ctx links = .ok fields) :
    ∃ ds, (c.classAround ctx fields).declarations = c.identityMember ctx ++ ds ∧
      List.Forall₂ Field.DeclaredBy c.fields ds := by
  rw [placedFields, hpolicy] at hfields
  obtain ⟨codes, hcodes, rfl⟩ := Placed.all_strict_eq_ok_iff.1 hfields
  have hentries : ∀ f ∈ c.fields, HasEntry contracts f (links.get? f.propertyKey) :=
    fun _ hf => get?_resolveLinks hcheck hlinks hf
  refine ⟨codes.map MemberCode.declaration, declarations_of_emitted c ctx codes, ?_⟩
  rw [List.forall₂_map_right_iff]
  refine ((List.forall₂_and_left _ _).2 ⟨hentries, hcodes⟩).imp fun f code h => ?_
  exact declaredBy_of_code h.1 h.2

/-- Under the strict policy the key of every field is an identifier. -/
theorem isIdentifier_of_placedFields {fields : List (Placed MemberCode)}
    (hpolicy : ctx.policy = .strict) (hfields : c.placedFields ctx links = .ok fields) :
    ∀ f ∈ c.fields, Text.isIdentifier f.propertyKey = true := by
  rw [placedFields, hpolicy] at hfields
  intro f hf
  obtain ⟨code, hcode⟩ := (Placed.exists_all_strict_iff _).1 ⟨fields, hfields⟩ f hf
  exact Field.isIdentifier_of_code hcode

/-! ## The three views -/

/-- **Interface, class and schema structure agree.** All three declare the identity and then the
fields of the contract, in their order; and where a field is not linked, interface and class declare
it with one optionality and one type. -/
structure ViewsAgree (c : Contract) (ctx : EmissionContext) (m : ModelModule) : Prop where
  interfaceKeys : (c.ownMembers m.interfaceCode).map MemberDeclaration.key = c.memberKeys ctx
  classKeys : m.classCode.declarations.map MemberDeclaration.key = c.memberKeys ctx
  schemaKeys : ∃ properties, m.schema.get? "properties" = some (.object properties) ∧
    properties.map Prod.fst = c.memberKeys ctx
  /-- The declarations of the fields, past those of the identity, in pairs. -/
  unlinked : List.Forall₂
    (fun f (d : MemberDeclaration × MemberDeclaration) =>
      f.link = [] → d.1.optional = d.2.optional ∧ d.1.type = d.2.type)
    c.fields
    (((c.ownMembers m.interfaceCode).zip m.classCode.declarations).drop
      (ctx.identityKey c.modelName).toList.length)

/-- Two views of the same fields agree on those that are not linked. -/
theorem forall₂_zip_of_declaredBy {fields : List Field} {ds es : List MemberDeclaration}
    (hd : List.Forall₂ Field.DeclaredBy fields ds) (he : List.Forall₂ Field.DeclaredBy fields es) :
    List.Forall₂
      (fun f (d : MemberDeclaration × MemberDeclaration) =>
        f.link = [] → d.1.optional = d.2.optional ∧ d.1.type = d.2.type)
      fields (ds.zip es) := by
  induction hd generalizing es with
  | nil => exact .nil
  | cons hd _ ih =>
    cases he with
    | cons he hrest =>
      refine .cons (fun hnil => ?_) (ih hrest)
      obtain ⟨hoptional, htype⟩ := hd.plain hnil
      obtain ⟨hoptional', htype'⟩ := he.plain hnil
      exact ⟨hoptional.trans hoptional'.symm, htype.trans htype'.symm⟩

theorem map_key_identityMember (c : Contract) (ctx : EmissionContext) :
    (c.identityMember ctx).map MemberDeclaration.key = (ctx.identityKey c.modelName).toList := by
  rw [identityMember, List.map_map]
  exact List.map_id _

theorem map_fst_schemaProperties (c : Contract) (links : Table LinkTarget) (ctx : EmissionContext) :
    (c.schemaProperties links ctx).map Prod.fst = c.memberKeys ctx := by
  rw [schemaProperties, memberKeys, List.map_append, List.map_map, List.map_map]
  exact congrArg₂ _ (List.map_id _) rfl

/-- What the strict policy emits has three views that agree. -/
theorem viewsAgree_moduleAround {fields : List (Placed MemberCode)}
    {messages : List (Placed MessageCode)} (hpolicy : ctx.policy = .strict)
    (hcheck : c.check = .ok ()) (hlinks : c.resolveLinks contracts = .ok links)
    (hfields : c.placedFields ctx links = .ok fields) :
    c.ViewsAgree ctx (c.moduleAround contracts ctx resolver links fields messages) := by
  obtain ⟨ds, hown, hds⟩ := exists_ownMembers ctx hcheck hlinks
  rw [List.filter_eq_self.2 (isIdentifier_of_placedFields hpolicy hfields)] at hds
  obtain ⟨es, hdeclared, hes⟩ := exists_declarations hpolicy hcheck hlinks hfields
  constructor
  case interfaceKeys =>
    rw [moduleAround, hown, List.map_append, map_key_identityMember,
      Field.map_key_of_declaredBy hds]
    rfl
  case classKeys =>
    rw [moduleAround, hdeclared, List.map_append, map_key_identityMember,
      Field.map_key_of_declaredBy hes]
    rfl
  case schemaKeys => exact ⟨_, rfl, map_fst_schemaProperties c links ctx⟩
  case unlinked =>
    have hlength : ((c.identityMember ctx).zip (c.identityMember ctx)).length =
        (ctx.identityKey c.modelName).toList.length := by
      rw [List.length_zip, Nat.min_self, ← map_key_identityMember, List.length_map]
    rw [moduleAround, hown, hdeclared, List.zip_append rfl, List.drop_left' hlength]
    exact forall₂_zip_of_declaredBy hds hes

/-- **Under the strict policy interface, class and schema structure agree.** -/
theorem viewsAgree_of_emitModel {t : String} (hpolicy : ctx.policy = .strict)
    (h : c.emitModel contracts ctx resolver = .ok t) :
    ∃ m, c.modelModule contracts ctx resolver = .ok m ∧ t = m.render ∧ c.ViewsAgree ctx m := by
  obtain ⟨m, hm, rfl⟩ := emitModel_eq_ok_iff.1 h
  obtain ⟨links, fields, messages, hcheck, hlinks, hfields, -, rfl⟩ := modelModule_eq_ok_iff.1 hm
  exact ⟨_, hm, rfl, viewsAgree_moduleAround hpolicy hcheck hlinks hfields⟩

/-- A contract with a companion, a linked field whose companion gives way to a declared field, a
default and a list. -/
def invoice : Contract :=
  { named "Invoice" "Invoice" with
    fields :=
      [{ Field.plain "total" (.known .double) with defaultValue := some (.bool false) },
       { Field.plain "origin" (.known .string) with link := [.to "Invoice"] },
       { Field.plain "next" (.known .string) with link := [.to "InvoiceContract"], array := true },
       { Field.plain "nextId" (.known .uuid) with nullable := some true },
       { Field.plain "tags" (.known .simpleArray) with arrayType := some (.known .text) }] }

theorem viewsAgree_invoice :
    ∃ t, fullContext.policy = .strict ∧
      invoice.emitModel [invoice] fullContext nameResolver = .ok t ∧
      ∃ m, invoice.modelModule [invoice] fullContext nameResolver = .ok m ∧ t = m.render ∧
        invoice.ViewsAgree fullContext m :=
  ⟨_, rfl, rfl, viewsAgree_of_emitModel rfl rfl⟩

/-! ## Fields that are left out -/

/-- Every member of an interface has an identifier as its key. -/
theorem isIdentifier_of_mem_interfaceCode {d : MemberDeclaration}
    (hd : d ∈ (c.interfaceCode ctx links).members) : Text.isIdentifier d.key = true := by
  rcases List.mem_append.1 hd with hd | hd
  · obtain ⟨id, hid, rfl⟩ := List.mem_map.1 hd
    dsimp only
    rcases EmissionContext.eq_of_identityKey (Option.mem_toList.1 hid) with rfl | rfl <;> decide
  · obtain ⟨f, -, hd⟩ := List.mem_flatMap.1 hd
    unfold interfaceMembers at hd
    split at hd
    · cases hd
    rename_i hkey
    replace hkey : Text.isIdentifier f.propertyKey = true := by simpa using hkey
    split at hd
    · rw [List.mem_singleton.1 hd]
      exact hkey
    · rcases List.mem_cons.1 hd with rfl | hd
      · exact hkey
      · split at hd
        · cases hd
        · rw [List.mem_singleton.1 hd]
          exact Text.isIdentifier_append hkey (by decide)

/-- **A field that is left out of the class.** No field of the class is declared under its key, and
no hook is called on it; and where its key is no identifier, the interface does not have it
either. -/
structure LeftOut (f : Field) (m : ModelModule) : Prop where
  undeclared : ∀ code, .emitted code ∈ m.classCode.fields → code.declaration.key ≠ f.propertyKey
  unhooked : ∀ h ∈ m.classCode.hooks, h.key ≠ f.propertyKey
  interface : Text.isIdentifier f.propertyKey = false →
    ∀ d ∈ m.interfaceCode.members, d.key ≠ f.propertyKey

/-- A hook is called on a field that was emitted. -/
theorem exists_emitted_of_mem_hooks {fields : List (Placed MemberCode)} {h : ValidationHook}
    (hmem : h ∈ (c.classAround ctx fields).hooks) :
    ∃ f code, (f, .emitted code) ∈ c.fields.zip fields ∧ h.key = f.propertyKey := by
  obtain ⟨hooks, hhooks, hh⟩ := List.mem_flatten.1 hmem
  rw [← List.map_uncurry_zip_eq_zipWith] at hhooks
  obtain ⟨⟨f, p⟩, hzip, rfl⟩ := List.mem_map.1 hhooks
  cases p with
  | omitted => cases hh
  | emitted code =>
    refine ⟨f, code, hzip, ?_⟩
    simp only [Function.uncurry_apply_pair, hookOf] at hh
    split at hh
    · rw [List.mem_singleton.1 hh]
    · cases hh

/-- A field with a comment in its place is left out of the class. -/
theorem leftOut_of_omitted {fields : List (Placed MemberCode)} {messages : List (Placed MessageCode)}
    (hcheck : c.check = .ok ()) (hfields : c.placedFields ctx links = .ok fields) {f : Field}
    {name : String} {e : EmissionError} (hzip : (f, .omitted name e) ∈ c.fields.zip fields) :
    name = f.propertyKey ∧
      LeftOut f (c.moduleAround contracts ctx resolver links fields messages) := by
  have hresult : ∀ {g p}, (g, p) ∈ c.fields.zip fields →
      Placed.ofResult ctx.policy g.propertyKey (g.code ctx (links.get? g.propertyKey)) = .ok p :=
    fun h => (List.forall₂_iff_zip.1 (Placed.all_eq_ok_iff.1 hfields)).2 h
  obtain ⟨herror, hname⟩ := Placed.ofResult_eq_omitted (hresult hzip)
  -- the keys are distinct, so a field that is emitted under this key would be this one
  have hother : ∀ g ∈ c.fields, ∀ code, g.code ctx (links.get? g.propertyKey) = .ok code →
      g.propertyKey ≠ f.propertyKey := by
    intro g hg code hcode hkey
    obtain rfl :=
      List.inj_on_of_nodup_map (nodup_of_check hcheck) hg (List.of_mem_zip hzip).1 hkey
    rw [herror] at hcode
    cases hcode
  refine ⟨hname, ?_, ?_, ?_⟩
  · intro code hmem
    obtain ⟨g, hg, hcode⟩ := Placed.exists_of_mem_all hfields hmem
    replace hcode := Placed.ofResult_eq_emitted hcode
    obtain ⟨-, -, -, -, -, hdeclaration, -⟩ := Field.code_eq_ok hcode
    rw [hdeclaration]
    exact hother g hg code hcode
  · intro h hmem
    obtain ⟨g, code, hg, hkey⟩ := exists_emitted_of_mem_hooks hmem
    rw [hkey]
    exact hother g (List.of_mem_zip hg).1 code (Placed.ofResult_eq_emitted (hresult hg))
  · intro hkey d hd heq
    have hidentifier := isIdentifier_of_mem_interfaceCode hd
    rw [heq, hkey] at hidentifier
    cases hidentifier

/-- The structure requires the identity and the fields that are not nullable. -/
theorem requiredKeys_eq (c : Contract) (ctx : EmissionContext) :
    c.requiredKeys ctx = (ctx.identityKey c.modelName).toList ++
      (c.fields.filter fun f => f.nullable ≠ some true).map Field.propertyKey := by
  have hnullable : ∀ f : Field, (!f.isNullable) = decide (f.nullable ≠ some true) := by
    intro f
    unfold Field.isNullable
    cases f.nullable with
    | none => rfl
    | some b => cases b <;> rfl
  simp only [requiredKeys, hnullable]

/-- **A comment takes the place of a field in the class**, and in the interface where the field's key
is no identifier. The schema structure is that of the contract as declared: it requires the identity
and every field that is not nullable, whether the field could be emitted or not. -/
theorem leftOut_of_emitModel {t : String} (h : c.emitModel contracts ctx resolver = .ok t) :
    ∃ m, c.modelModule contracts ctx resolver = .ok m ∧ t = m.render ∧
      (∀ f name e, (f, .omitted name e) ∈ c.fields.zip m.classCode.fields →
        name = f.propertyKey ∧ LeftOut f m) ∧
      m.schema.get? "required" = some (.array
        (((ctx.identityKey c.modelName).toList ++
          (c.fields.filter fun f => f.nullable ≠ some true).map Field.propertyKey).map .text)) := by
  obtain ⟨m, hm, rfl⟩ := emitModel_eq_ok_iff.1 h
  obtain ⟨links, fields, messages, hcheck, -, hfields, -, rfl⟩ := modelModule_eq_ok_iff.1 hm
  refine ⟨_, hm, rfl, fun f name e hzip => leftOut_of_omitted hcheck hfields hzip, ?_⟩
  rw [← requiredKeys_eq]
  rfl

def hyphenated : Field := Field.plain "first-name" (.known .string)

/-- A field with a validation whose name is no identifier. -/
def misvalidated : Field :=
  { Field.plain "email" (.known .string) with validations := [.ofKind (.name "is email")] }

/-- A contract neither of whose fields can be emitted. -/
def misnamed : Contract := { named "User" "User" with fields := [hyphenated, misvalidated] }

def lenientContext : EmissionContext := { fullContext with policy := .placeholder }

theorem leftOut_misnamed :
    ∃ t, misnamed.emitModel [misnamed] lenientContext nameResolver = .ok t ∧
      ∃ m, misnamed.modelModule [misnamed] lenientContext nameResolver = .ok m ∧ t = m.render ∧
        (∀ f name e, (f, .omitted name e) ∈ misnamed.fields.zip m.classCode.fields →
          name = f.propertyKey ∧ LeftOut f m) ∧
        m.schema.get? "required" = some (.array
          (((lenientContext.identityKey misnamed.modelName).toList ++
            (misnamed.fields.filter fun f => f.nullable ≠ some true).map Field.propertyKey).map
              .text)) :=
  ⟨_, rfl, leftOut_of_emitModel rfl⟩

/-- Comments take the place of both fields in the class, yet the structure requires both, and the
interface has the one whose key is an identifier. -/
theorem not_removed_misnamed :
    ∃ m, misnamed.modelModule [misnamed] lenientContext nameResolver = .ok m ∧
      misnamed.emitModel [misnamed] lenientContext nameResolver = .ok m.render ∧
      (∃ e, (hyphenated, .omitted "first-name" e) ∈ misnamed.fields.zip m.classCode.fields) ∧
      (∃ e, (misvalidated, .omitted "email" e) ∈ misnamed.fields.zip m.classCode.fields) ∧
      m.schema.get? "required" =
        some (.array [.text "_id", .text "first-name", .text "email"]) ∧
      "email" ∈ m.interfaceCode.members.map MemberDeclaration.key :=
  ⟨_, rfl, rfl, ⟨⟨"first-name", .invalidPropertyKey⟩, by decide⟩,
    ⟨⟨"email", .invalidValidation "is email"⟩, by decide⟩, rfl, by decide⟩

end Contract

end ContractCompiler
