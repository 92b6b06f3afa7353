import ContractCompiler.Module.FastSchema
import ContractCompiler.Module.Message
import ContractCompiler.Proofs.Contract.Links
import ContractCompiler.Proofs.TypeTag.Mapping

/-!
# The representations of a type agree

The type of a field is written in a declaration, in the documentation and in the schema, each time
from the field itself.

* `typesAgree_of_field` — for a field without an object type the three are those of one type, and
  all or none of them are lists.
* `docType_eq_boxed_declaredType` — a property is documented as the form of its written type.
* `linkedTypesAgree_of_resolveLink` — for a linked field all or none of them are lists.
* `representations_agree` — the three together, with the targets that a contract's links resolve to.
-/

namespace ContractCompiler

/-- The schema is one of a list. -/
def SchemaNode.IsArray (node : SchemaNode) : Prop := node.get? "type" = some (.text "array")

theorem SchemaNode.text_inj {s t : String} : text s = text t ↔ s = t := by
  simp [text]

namespace Field

/-! ## Fields that are not linked -/

/-- The three representations of a field that is not linked are those of one type. -/
structure TypesAgree (f : Field) : Prop where
  /-- The documentation type is the form of the written type. -/
  documented : f.docType none = boxed f.declaredType
  /-- The written type ends in `[]` exactly when the schema is that of a list. -/
  array_iff : "[]".toList <:+ f.declaredType.toList ↔ f.plainSchema.IsArray
  /-- A list is one of the same items in all three. -/
  array : f.plainSchema.IsArray → ∃ (item : TypeTag) (items : SchemaNode),
    f.declaredType = item.target ++ "[]" ∧ f.docType none = "[" ++ boxed item.target ++ "]" ∧
      f.plainSchema.get? "items" = some items ∧
      items.get? "type" = some (.text item.jsonType.keyword)
  /-- Any other value has the three representations of its type. -/
  single : ¬f.plainSchema.IsArray →
    f.declaredType = f.type.target ∧ f.docType none = boxed f.type.target ∧
      f.plainSchema.get? "type" = some (.text f.type.jsonType.keyword)

variable {f : Field}

theorem itemType_eq (f : Field) : f.itemType = f.type.itemOf f.arrayType f.isRepeated := rfl

theorem declaredType_eq (h : f.objectType = none) :
    f.declaredType = f.type.declared f.arrayType f.isRepeated := by
  unfold declaredType
  rw [h]
  rfl

theorem docType_none_eq (h : f.objectType = none) :
    f.docType none = f.type.docType f.arrayType f.isRepeated := by
  unfold docType
  rw [h]

theorem type_plainSchema_of_some {item : TypeTag} (h : f.itemType = some item) :
    f.plainSchema.get? "type" = some (.text "array") := by
  rw [plainSchema, h]
  rfl

theorem items_plainSchema {item : TypeTag} (h : f.itemType = some item) :
    f.plainSchema.get? "items" = some (.object [("type", typeNode item)]) := by
  rw [plainSchema, h]
  rfl

theorem type_plainSchema_of_none (h : f.itemType = none) :
    f.plainSchema.get? "type" = some (typeNode f.type) := by
  rw [plainSchema, h]
  rfl

/-- The schema is that of a list exactly when the field holds items. -/
theorem isArray_plainSchema_iff : f.plainSchema.IsArray ↔ f.itemType.isSome = true := by
  unfold SchemaNode.IsArray
  cases h : f.itemType with
  | some item => simp [type_plainSchema_of_some h]
  | none =>
    -- the keyword of a single value is not that of a list, since its tag is not one
    obtain ⟨hlist, -⟩ := TypeTag.single_of_itemOf (f.itemType_eq ▸ h)
    have hkeyword : f.type.jsonType.keyword ≠ "array" := by
      rw [ne_eq, JsonType.keyword_eq_array_iff, TypeTag.jsonType_eq_array_iff, hlist]
      exact Bool.false_ne_true
    simpa [type_plainSchema_of_none h, typeNode, SchemaNode.text_inj] using hkeyword

/-- **The representations of a field without an object type agree.** -/
theorem typesAgree_of_field (h : f.objectType = none) : f.TypesAgree := by
  constructor
  case documented =>
    rw [docType_none_eq h, declaredType_eq h]
    exact TypeTag.docType_eq_boxed_declared f.type f.arrayType f.isRepeated
  case array_iff =>
    rw [← isListType_iff, declaredType_eq h, isArray_plainSchema_iff, itemType_eq,
      TypeTag.isListType_declared]
  case array =>
    intro harray
    obtain ⟨item, hitem⟩ := Option.isSome_iff_exists.1 (isArray_plainSchema_iff.1 harray)
    refine ⟨item, _, ?_, ?_, items_plainSchema hitem, rfl⟩
    · rw [declaredType_eq h]
      exact TypeTag.declared_of_itemOf hitem
    · rw [docType_none_eq h]
      exact TypeTag.docType_of_itemOf hitem
  case single =>
    intro hsingle
    have hitem : f.itemType = none := by
      rw [isArray_plainSchema_iff] at hsingle
      simpa using hsingle
    refine ⟨?_, ?_, type_plainSchema_of_none hitem⟩
    · rw [declaredType_eq h]
      exact TypeTag.declared_of_single hitem
    · rw [docType_none_eq h]
      exact TypeTag.docType_of_single hitem

end Field

/-! ## Properties of messages -/

/-- **A property is documented as the form of its written type.** -/
theorem Property.docType_eq_boxed_declaredType (p : Property) :
    p.docType = boxed p.declaredType :=
  TypeTag.docType_eq_boxed_declared p.type p.arrayType p.isList

/-! ## Linked fields -/

/-- What a linked field holds: the model, its key, or its key in a document store. -/
def LinkTarget.alternatives (t : LinkTarget) (document : Bool) : List String :=
  [t.model, "string"] ++ if document then ["ObjectId"] else []

/-- The type of any of the alternatives, or of nothing. -/
def nullableUnion (types : List String) : String := " | ".intercalate (types ++ ["null"])

namespace LinkTarget

variable {t : LinkTarget} {document : Bool}

theorem declaredType_of_many (h : t.many = true) :
    t.declaredType document = nullableUnion ((t.alternatives document).map (· ++ "[]")) := by
  unfold declaredType
  rw [h]
  cases document <;> rfl

theorem declaredType_of_one (h : t.many = false) :
    t.declaredType document = nullableUnion (t.alternatives document) := by
  unfold declaredType
  rw [h]
  cases document <;> simp [nullableUnion, alternatives]

/-- A union of lists is not one of single values: they differ right after the model. -/
theorem nullableUnion_ne_lists (t : LinkTarget) (document : Bool) :
    nullableUnion (t.alternatives document) ≠
      nullableUnion ((t.alternatives document).map (· ++ "[]")) := by
  intro h
  cases document <;>
    simp [nullableUnion, alternatives, String.intercalate_cons_of_ne_nil, String.append_assoc] at h

/-- The written type is a union of lists exactly when there are many entities. -/
theorem declaredType_eq_lists_iff :
    t.declaredType document = nullableUnion ((t.alternatives document).map (· ++ "[]")) ↔
      t.many = true := by
  refine ⟨fun h => ?_, declaredType_of_many⟩
  by_contra hmany
  rw [declaredType_of_one (by simpa using hmany)] at h
  exact nullableUnion_ne_lists t document h

/-- The documentation type is in brackets exactly when there are many entities. -/
theorem docType_eq_brackets_iff : t.docType = "[" ++ t.model ++ "]" ↔ t.many = true := by
  unfold docType
  split
  · rename_i hmany
    exact ⟨fun _ => hmany, fun _ => rfl⟩
  · rename_i hmany
    refine ⟨fun h => ?_, fun h => absurd h hmany⟩
    have hlength := congrArg String.length h
    simp only [String.length_append] at hlength
    have hopen : "[".length = 1 := rfl
    omega

end LinkTarget

namespace Field

/-- The three representations of a linked field in the module of `model` are those of a list of
entities, or those of one entity. -/
structure LinkedTypesAgree (f : Field) (target : LinkTarget) (ctx : EmissionContext)
    (model : String) : Prop where
  /-- The alternatives of the written type are lists exactly when the schema is that of a list. -/
  written_iff : f.memberType ctx (some target) =
      nullableUnion ((target.alternatives (ctx.usesDocumentIdentity target.model)).map (· ++ "[]")) ↔
    (f.schema (some target) model).IsArray
  /-- The documentation type is in brackets exactly when the schema is that of a list. -/
  documented_iff : f.docType (some target) = "[" ++ target.model ++ "]" ↔
    (f.schema (some target) model).IsArray
  /-- One entity is written and documented as such. -/
  single : ¬(f.schema (some target) model).IsArray →
    f.memberType ctx (some target) =
        nullableUnion (target.alternatives (ctx.usesDocumentIdentity target.model)) ∧
      f.docType (some target) = target.model

variable {f : Field} {target : LinkTarget}

theorem isArray_linkedSchema_iff (f : Field) (target : LinkTarget) (model : String) :
    (f.linkedSchema target model).IsArray ↔ target.many = true ∨ f.isRepeated = true := by
  unfold linkedSchema SchemaNode.IsArray
  split
  · rename_i h
    rw [Bool.or_eq_true] at h
    exact ⟨fun _ => h, fun _ => rfl⟩
  · rename_i h
    rw [Bool.or_eq_true] at h
    refine ⟨fun hnone => ?_, fun h' => absurd h' h⟩
    simp [SchemaNode.get?] at hnone

/-- The representations of a linked field agree on a target that counts its repetition. -/
theorem linkedTypesAgree_of_repeated (h : f.isRepeated = true → target.many = true)
    (ctx : EmissionContext) (model : String) : f.LinkedTypesAgree target ctx model := by
  have harray : (f.schema (some target) model).IsArray ↔ target.many = true := by
    show (f.linkedSchema target model).IsArray ↔ _
    rw [isArray_linkedSchema_iff]
    exact or_iff_left_of_imp h
  constructor
  case written_iff =>
    rw [harray]
    exact LinkTarget.declaredType_eq_lists_iff
  case documented_iff =>
    rw [harray]
    exact LinkTarget.docType_eq_brackets_iff
  case single =>
    intro hsingle
    rw [harray, Bool.not_eq_true] at hsingle
    refine ⟨LinkTarget.declaredType_of_one hsingle, ?_⟩
    show target.docType = target.model
    rw [LinkTarget.docType, hsingle]
    rfl

end Field

namespace Contract

variable {c : Contract} {contracts : List Contract}

/-- **The representations of a linked field agree on the target that its link resolves to.** -/
theorem linkedTypesAgree_of_resolveLink {f : Field} {link : Link} {target : LinkTarget}
    (h : c.resolveLink contracts f link = .ok target) (ctx : EmissionContext) (model : String) :
    f.LinkedTypesAgree target ctx model := by
  obtain ⟨t, -, rfl⟩ := resolveLink_eq_ok h
  refine Field.linkedTypesAgree_of_repeated (fun hrepeated => ?_) ctx model
  show (link.array || f.isRepeated) = true
  rw [hrepeated, Bool.or_true]

end Contract

/-- **The representations of a type agree**: those of a field without links or an object type, those
of a property, and those of a linked field on its target in a contract whose links resolve. That
target is the one the links hold under the field's key, unless a later linked field has that key
too. -/
theorem representations_agree :
    (∀ f : Field, f.objectType = none → f.TypesAgree) ∧
      (∀ p : Property, p.type.docType p.arrayType p.isList = boxed p.declaredType) ∧
      ∀ (c : Contract) (contracts : List Contract) (links : Table LinkTarget),
        c.resolveLinks contracts = .ok links →
        ∀ before f after link more, c.fields = before ++ f :: after → f.link = link :: more →
          ∃ target, c.resolveLink contracts f link = .ok target ∧
            ((∀ g ∈ after, g.link ≠ [] → g.propertyKey ≠ f.propertyKey) →
              links.get? f.propertyKey = some target) ∧
            ∀ ctx model, f.LinkedTypesAgree target ctx model := by
  refine ⟨fun f h => Field.typesAgree_of_field h, Property.docType_eq_boxed_declaredType, ?_⟩
  intro c contracts links hlinks before f after link more hsplit hlink
  rw [Contract.resolveLinks, hsplit] at hlinks
  obtain ⟨target, htarget, hentry⟩ := Contract.exists_target_of_resolveFields hlink hlinks
  exact ⟨target, htarget, hentry, Contract.linkedTypesAgree_of_resolveLink htarget⟩

/-- A flat list whose items are declared as lists themselves. -/
def Field.matrix : Field :=
  { plain "matrix" (.known .simpleArray) with arrayType := some (.list (.known .double)) }

/-- A field that is a list by its declaration and not by its link. -/
def Field.teammates : Field :=
  { plain "teammates" (.known .string) with array := true, link := [.to "Squad"] }

def Contract.squad : Contract :=
  { named "Squad" "Squad" with fields := [.matrix, .teammates] }

theorem representations_agree_squad :
    Field.matrix.TypesAgree ∧
      ∃ links, Contract.squad.resolveLinks [.squad] = .ok links ∧
        ∃ target, links.get? "teammates" = some target ∧
          ∀ ctx model, Field.teammates.LinkedTypesAgree target ctx model := by
  obtain ⟨hfields, -, hlinks⟩ := representations_agree
  obtain ⟨target, -, hentry, hagree⟩ :=
    hlinks .squad [.squad] _ rfl [.matrix] .teammates [] (.to "Squad") [] rfl rfl
  refine ⟨hfields .matrix rfl, _, rfl, target, hentry ?_, hagree⟩
  intro g hg
  cases hg

end ContractCompiler
