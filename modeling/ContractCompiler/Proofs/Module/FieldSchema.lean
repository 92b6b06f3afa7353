import ContractCompiler.Proofs.Module.Distinct

/-!
# What a schema says of its fields

Besides its type, the schema of a field says whether the field may be null, and what its default is.
The list of what is required is made apart from these schemas, and the initial values of the class
are decided by other rules, so that the three agree has to be proved.

* `get?_nullable_schema` — every field's schema says whether the field may be null.
* `requiredAgrees_of_check` — the list of what is required holds what the properties mark so.
* `mirrorsDefault_iff` — a default of the class is one of the schema unless the field is linked.
* `defaults_of_emitModel` — so it is for every field of what the strict policy emits.
-/

namespace ContractCompiler

/-- Two images of one list, side by side. -/
theorem forall₂_zip_map {α β γ : Type} {R : α → β → Prop} {g : α → γ} {as : List α} {bs : List β}
    (h : List.Forall₂ R as bs) :
    List.Forall₂ (fun a (p : β × γ) => R a p.1 ∧ p.2 = g a) as (bs.zip (as.map g)) := by
  induction h with
  | nil => exact .nil
  | cons hab _ ih => exact .cons ⟨hab, rfl⟩ ih

namespace SchemaNode

variable {members : List (String × SchemaNode)} {key : String}

/-- An object whose keys are distinct has each of its members under its key. -/
theorem get?_eq_some_iff {node : SchemaNode} (h : (members.map Prod.fst).Nodup) :
    (object members).get? key = some node ↔ (key, node) ∈ members := by
  have hget : (object members).get? key = (members.find? fun m => m.1 == key).map Prod.snd := rfl
  rw [hget, Option.map_eq_some_iff]
  constructor
  · rintro ⟨⟨k, x⟩, hfind, rfl⟩
    have hk : k = key := by simpa using List.find?_some hfind
    rw [← hk]
    exact List.mem_of_find?_eq_some hfind
  · intro hmem
    have hisSome : (members.find? fun m => m.1 == key).isSome := by
      rw [List.find?_isSome]
      exact ⟨_, hmem, by simp⟩
    obtain ⟨⟨k, x⟩, hfind⟩ := Option.isSome_iff_exists.1 hisSome
    have hk : k = key := by simpa using List.find?_some hfind
    exact ⟨_, hfind, congrArg Prod.snd
      (List.inj_on_of_nodup_map h (List.mem_of_find?_eq_some hfind) hmem hk)⟩

end SchemaNode

namespace Field

variable {f : Field} {link : Option LinkTarget} {model : String}

/-- **Every field's schema says whether the field may be null**: that of a single value or of a list,
of one linked entity or of many. -/
theorem get?_nullable_schema (f : Field) (link : Option LinkTarget) (model : String) :
    (f.schema link model).get? "nullable" = some (.flag f.isNullable) := by
  cases link with
  | none =>
    rw [schema, plainSchema]
    cases f.itemType <;> rfl
  | some target =>
    rw [schema, linkedSchema]
    split <;> rfl

/-- The schema of a field that is not linked has the field's default. -/
theorem get?_default_plainSchema (f : Field) :
    f.plainSchema.get? "default" = f.defaultValue.map .value := by
  rw [plainSchema, defaultMembers]
  cases f.itemType <;> cases f.defaultValue <;> rfl

/-- The schema of a linked field has no default. -/
theorem get?_default_linkedSchema (f : Field) (target : LinkTarget) (model : String) :
    (f.linkedSchema target model).get? "default" = none := by
  rw [linkedSchema]
  split <;> rfl

/-- The default of a declaration is that of a schema: the schema has one exactly when the declaration
has an initial value, and it is the field's. -/
structure MirrorsDefault (f : Field) (d : MemberDeclaration) (node : SchemaNode) : Prop where
  present : (node.get? "default").isSome = true ↔ d.initial.isSome = true
  value : ∀ x, node.get? "default" = some x → ∃ v, f.defaultValue = some v ∧ x = .value v

/-- **A default of the class is one of the schema unless the field is linked.** -/
theorem mirrorsDefault_iff {d : MemberDeclaration} (hd : d.initial = f.initial) :
    f.MirrorsDefault d (f.schema link model) ↔ link = none ∨ f.defaultValue = none := by
  have hinitial : d.initial.isSome = f.defaultValue.isSome := by
    rw [hd, initial, Option.isSome_map]
  cases link with
  | none =>
    refine iff_of_true ⟨?_, fun x hx => ?_⟩ (Or.inl rfl)
    · rw [schema, get?_default_plainSchema, Option.isSome_map, hinitial]
    · rw [schema, get?_default_plainSchema, Option.map_eq_some_iff] at hx
      obtain ⟨v, hv, rfl⟩ := hx
      exact ⟨v, hv, rfl⟩
  | some target =>
    have hnone : (f.schema (some target) model).get? "default" = none :=
      get?_default_linkedSchema f target model
    constructor
    · intro h
      have hpresent := h.present
      rw [hnone, hinitial] at hpresent
      simpa using hpresent
    · rintro (hlink | hdefault)
      · cases hlink
      · rw [hdefault] at hinitial
        refine ⟨by simp [hnone, hinitial], fun x hx => ?_⟩
        rw [hnone] at hx
        cases hx

end Field

namespace Contract

variable {c : Contract} {contracts : List Contract} {ctx : EmissionContext} {resolver : Resolver}
  {links : Table LinkTarget}

/-! ## What is required -/

/-- A model is declared under distinct keys when no field takes the key of its identity. -/
theorem nodup_memberKeys (hcheck : c.check = .ok ())
    (hidentity : ∀ f ∈ c.fields, ¬c.TakesIdentity ctx f) : (c.memberKeys ctx).Nodup := by
  refine List.nodup_append.2 ⟨?_, nodup_of_check hcheck, ?_⟩
  · cases ctx.identityKey c.modelName <;> simp
  · rintro id hid key hkey rfl
    obtain ⟨f, hf, rfl⟩ := List.mem_map.1 hkey
    exact hidentity f hf (Option.mem_toList.1 hid)

/-- **What is required is what the properties mark so.** The list holds the identity and then the
fields that are not nullable, in their order; the properties are the identity and then all fields, in
their order; and a key is in the list exactly when its property may not be null. -/
structure RequiredAgrees (c : Contract) (links : Table LinkTarget) (ctx : EmissionContext)
    (required : List String) (properties : List (String × SchemaNode)) : Prop where
  requiredNode : (c.schemaStructure links ctx).get? "required" = some (.array (required.map .text))
  propertiesNode : (c.schemaStructure links ctx).get? "properties" = some (.object properties)
  required_eq : required = (ctx.identityKey c.modelName).toList ++
    (c.fields.filter fun f => f.nullable ≠ some true).map Field.propertyKey
  keys_eq : properties.map Prod.fst =
    (ctx.identityKey c.modelName).toList ++ c.fields.map Field.propertyKey
  marked : ∀ key, key ∈ required ↔ ∃ node, SchemaNode.get? key (.object properties) = some node ∧
    node.get? "nullable" = some (.flag false)

/-- **Where no field takes the key of the identity, what is required is what the properties mark
so.** -/
theorem requiredAgrees_of_check (hcheck : c.check = .ok ())
    (hidentity : ∀ f ∈ c.fields, ¬c.TakesIdentity ctx f) (links : Table LinkTarget) :
    ∃ required properties, c.RequiredAgrees links ctx required properties := by
  refine ⟨c.requiredKeys ctx, c.schemaProperties links ctx, rfl, rfl, requiredKeys_eq c ctx,
    map_fst_schemaProperties c links ctx, fun key => ?_⟩
  have hdistinct : ((c.schemaProperties links ctx).map Prod.fst).Nodup := by
    rw [map_fst_schemaProperties]
    exact nodup_memberKeys hcheck hidentity
  have hrequired : key ∈ c.requiredKeys ctx ↔ ctx.identityKey c.modelName = some key ∨
      ∃ f ∈ c.fields, f.isNullable = false ∧ f.propertyKey = key := by
    simp [requiredKeys, and_assoc]
  simp only [SchemaNode.get?_eq_some_iff hdistinct]
  simp only [hrequired, schemaProperties, List.mem_append, List.mem_map, Option.mem_toList,
    Prod.mk.injEq]
  constructor
  · rintro (hid | ⟨f, hf, hnullable, rfl⟩)
    · exact ⟨_, Or.inl ⟨key, hid, rfl, rfl⟩, rfl⟩
    · refine ⟨_, Or.inr ⟨f, hf, rfl, rfl⟩, ?_⟩
      rw [Field.get?_nullable_schema, hnullable]
  · rintro ⟨node, ⟨id, hid, rfl, -⟩ | ⟨f, hf, rfl, rfl⟩, hnode⟩
    · exact Or.inl hid
    · refine Or.inr ⟨f, hf, ?_, rfl⟩
      rw [Field.get?_nullable_schema] at hnode
      simpa [SchemaNode.flag] using hnode

/-- A contract with a nullable list, one linked entity and many, and defaults on linked and other
fields. -/
def shipment : Contract :=
  { named "Shipment" "Shipment" with
    fields :=
      [{ Field.plain "labels" (.known .simpleArray) with
          nullable := some true, defaultValue := some (.array []) },
       { Field.plain "weight" (.known .double) with defaultValue := some (.bool false) },
       { Field.plain "parent" (.known .string) with
          link := [.to "Shipment"], defaultValue := some (.string "none") },
       { Field.plain "parcels" (.known .string) with
          link := [.to "Shipment"], array := true, nullable := some true }] }

theorem requiredAgrees_shipment :
    shipment.check = .ok () ∧
      (∀ f ∈ shipment.fields, ¬shipment.TakesIdentity fullContext f) ∧
      ∃ required properties,
        shipment.RequiredAgrees [("parent", ⟨"Shipment", false⟩), ("parcels", ⟨"Crate", true⟩)]
          fullContext required properties :=
  ⟨rfl, by decide, requiredAgrees_of_check rfl (by decide) _⟩

/-! ## Defaults -/

/-- **Defaults of the class and of the schema.** `p` is what stands for the field in the class and
among the properties: both have its key, the class has an initial value exactly when the field has a
default, and the schema has that default exactly when the field is not linked or has none. -/
structure DefaultAgrees (f : Field) (p : MemberDeclaration × (String × SchemaNode)) : Prop where
  declared : p.1.key = f.propertyKey
  property : p.2.1 = f.propertyKey
  initial_iff : p.1.initial.isSome = true ↔ f.defaultValue.isSome = true
  mirrors_iff : f.MirrorsDefault p.1 p.2.2 ↔ f.link = [] ∨ f.defaultValue = none
  linked : f.link ≠ [] → p.2.2.get? "default" = none

/-- The declaration of an emitted field and its schema agree on its default as said. -/
theorem defaultAgrees_of_code {f : Field} {code : MemberCode}
    (hentry : HasEntry contracts f (links.get? f.propertyKey))
    (hcode : f.code ctx (links.get? f.propertyKey) = .ok code) :
    DefaultAgrees f (code.declaration,
      (f.propertyKey, f.schema (links.get? f.propertyKey) c.modelName)) := by
  obtain ⟨-, -, -, -, -, hdeclaration, -⟩ := Field.code_eq_ok hcode
  have hlinked : links.get? f.propertyKey = none ↔ f.link = [] := hentry.eq_none_iff
  refine ⟨by rw [hdeclaration], rfl, ?_, ?_, ?_⟩
  · rw [hdeclaration]
    simp [Field.initial]
  · rw [Field.mirrorsDefault_iff (by rw [hdeclaration]), hlinked]
  · intro hlink
    obtain ⟨target, htarget⟩ := Option.ne_none_iff_exists'.1 (mt hlinked.1 hlink)
    rw [htarget]
    exact Field.get?_default_linkedSchema f target c.modelName

/-- **What the strict policy emits has every default in the class, and every default but those of
linked fields in the schema.** The pairs are those past the identity. -/
theorem defaults_of_emitModel {t : String} (hpolicy : ctx.policy = .strict)
    (h : c.emitModel contracts ctx resolver = .ok t) :
    ∃ m properties, c.modelModule contracts ctx resolver = .ok m ∧ t = m.render ∧
      m.schema.get? "properties" = some (.object properties) ∧
      List.Forall₂ DefaultAgrees c.fields ((m.classCode.declarations.zip properties).drop
        (ctx.identityKey c.modelName).toList.length) := by
  obtain ⟨m, hm, rfl⟩ := emitModel_eq_ok_iff.1 h
  obtain ⟨links, fields, messages, hcheck, hlinks, hfields, -, rfl⟩ := modelModule_eq_ok_iff.1 hm
  rw [placedFields, hpolicy] at hfields
  obtain ⟨codes, hcodes, rfl⟩ := Placed.all_strict_eq_ok_iff.1 hfields
  refine ⟨_, c.schemaProperties links ctx, hm, rfl, rfl, ?_⟩
  have hentries : ∀ f ∈ c.fields, HasEntry contracts f (links.get? f.propertyKey) :=
    fun _ hf => get?_resolveLinks hcheck hlinks hf
  have hlength : (c.identityMember ctx).length = ((ctx.identityKey c.modelName).toList.map fun id =>
      (id, identitySchema)).length := by
    rw [identityMember, List.length_map, List.length_map]
  have hzip : ((c.identityMember ctx).zip ((ctx.identityKey c.modelName).toList.map fun id =>
      (id, identitySchema))).length = (ctx.identityKey c.modelName).toList.length := by
    rw [List.length_zip, hlength, Nat.min_self, List.length_map]
  rw [moduleAround, declarations_of_emitted, schemaProperties, List.zip_append hlength,
    List.drop_left' hzip, List.zip_map_left, List.forall₂_map_right_iff]
  refine (forall₂_zip_map ((List.forall₂_and_left _ _).2 ⟨hentries, hcodes⟩)).imp ?_
  rintro f ⟨code, -⟩ ⟨⟨hentry, hcode⟩, rfl⟩
  exact defaultAgrees_of_code hentry hcode

theorem defaults_shipment :
    ∃ t, fullContext.policy = .strict ∧
      shipment.emitModel [shipment] fullContext nameResolver = .ok t ∧
      ∃ m properties, shipment.modelModule [shipment] fullContext nameResolver = .ok m ∧
        t = m.render ∧ m.schema.get? "properties" = some (.object properties) ∧
        List.Forall₂ DefaultAgrees shipment.fields ((m.classCode.declarations.zip properties).drop
          (fullContext.identityKey shipment.modelName).toList.length) :=
  ⟨_, rfl, rfl, defaults_of_emitModel rfl rfl⟩

def origin : Field :=
  { Field.plain "parent" (.known .string) with
    link := [.to "Parcel"], defaultValue := some (.string "none") }

def parcel : Contract := { named "Parcel" "Parcel" with fields := [origin] }

/-- The strict policy emits the contract, its class has the default, and its schema does not. -/
theorem not_mirrorsDefault_parcel :
    ∃ m d node properties,
      parcel.emitModel [parcel] (.ofConfig .default .empty) nameResolver = .ok m.render ∧
      parcel.modelModule [parcel] (.ofConfig .default .empty) nameResolver = .ok m ∧
      m.schema.get? "properties" = some (.object properties) ∧
      (d, ("parent", node)) ∈ m.classCode.declarations.zip properties ∧
      d.initial = some "\"none\"" ∧ node.get? "default" = none ∧ ¬origin.MirrorsDefault d node := by
  refine ⟨_, ⟨"parent", true, "Parcel | string | null", some "\"none\""⟩,
    origin.linkedSchema ⟨"Parcel", false⟩ "Parcel", _, rfl, rfl, rfl, ?_, rfl, rfl, ?_⟩
  · exact List.mem_cons_of_mem _ List.mem_cons_self
  · intro h
    cases h.present.2 rfl

end Contract

end ContractCompiler
