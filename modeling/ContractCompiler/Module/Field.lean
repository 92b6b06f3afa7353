import ContractCompiler.Config.Basic
import ContractCompiler.Contract.Check
import ContractCompiler.Module.Code
import ContractCompiler.Text.Basic
import ContractCompiler.TypeTag.Mapping

/-!
# Fields in a generated class

`Field.code` gives the decorations and the declaration of one field. Decorations come in a fixed
order: exposure, constraints, date coercion, those the contract asks for, validations, API
documentation and graph queries, callbacks.

The model of `emit_field`, with `field_type`, `linked_type`, `field_doc_type` and `validation_line`.
-/

namespace ContractCompiler

/-- The type ends in `[]`. -/
def isListType (type : String) : Bool := (TypeTag.beforeBrackets? type.toList).isSome

def listType (type : String) : String := if isListType type then type else type ++ "[]"

/-- The type of a value before a repeated declaration makes a list of it. -/
def TypeTag.baseTarget (t : TypeTag) (item : Option TypeTag) : String :=
  match t, item with
  | .known .simpleArray, some i => i.target ++ "[]"
  | t, _ => t.target

namespace LinkTarget

/-- The declared type of a linked field: the model, its key, or nothing (`linked_type`). -/
def declaredType (t : LinkTarget) (document : Bool) : String :=
  let ending := if t.many then "[]" else ""
  " | ".intercalate
    ([t.model ++ ending, "string" ++ ending] ++ (if document then ["ObjectId" ++ ending] else []) ++
      ["null"])

/-- The documentation type of a linked field. -/
def docType (t : LinkTarget) : String := if t.many then "[" ++ t.model ++ "]" else t.model

end LinkTarget

namespace Field

/-- The declared type of a field that is not linked (`field_type`). -/
def declaredType (f : Field) : String :=
  let base := match f.objectType with
    | some type => type
    | none => f.type.baseTarget f.arrayType
  if f.isRepeated then listType base else base

/-- The documentation type of a field (`field_doc_type`). -/
def docType (f : Field) (link : Option LinkTarget) : String :=
  match link with
  | some target => target.docType
  | none =>
    match f.objectType with
    | some type =>
      let doc := boxed type
      if f.isRepeated && !("[".toList.isPrefixOf doc.toList) then "[" ++ doc ++ "]" else doc
    | none => f.type.docType f.arrayType f.isRepeated

/-- Whether the field is exposed. -/
def exposure (f : Field) : Decoration :=
  if f.exclude then
    ⟨.transformer, "Exclude", if f.toPlainOnly then "\x7b toPlainOnly: true \x7d" else ""⟩
  else .expose

/-- The decorations of constraints and of date coercion. -/
def constraints (f : Field) : List Decoration :=
  (if f.isRequired then [⟨.validator, "IsNotEmpty", ""⟩] else []) ++
    (if f.unique then [⟨.core, "IsUnique", ""⟩] else []) ++
    (if f.type = .known .date then [⟨.transformer, "Type", "() => Date"⟩] else [])

/-- The decorations that the contract asks for; their names have to be identifiers. -/
def decorationsOf (key : String) : Table Decorator → Except EmissionError (List Decoration)
  | [] => .ok []
  | (name, d) :: rest =>
    if Text.isIdentifier name then
      match decorationsOf key rest with
      | .error e => .error e
      | .ok decorations =>
        let arguments := match d.options with
          | some options => options.compact
          | none => ""
        .ok (⟨.custom d.source, name, arguments⟩ :: decorations)
    else .error ⟨key, .badDecoration name⟩

end Field

namespace Validation

def parameters (v : Validation) : List Json :=
  match v.kind with
  | .tuple (_ :: p :: rest) => p :: rest
  | _ => v.value.toList

/-- The options of the validation; contexts are written without quotes. -/
def options (v : Validation) : List String :=
  (match v.message with
    | some m => ["message: " ++ Json.quote m]
    | none => []) ++
    (match v.context with
      | some c => ["context: " ++ String.ofList (c.compact.toList.filter (· != '"'))]
      | none => [])

/-- The arguments of the validation's decoration. -/
def arguments (v : Validation) : String :=
  let options := v.options
  ", ".intercalate
    (v.parameters.map Json.compact ++ (if options.isEmpty then [] else [inlineObject options]))

/-- The decoration of a validation; its name has to be an identifier (`validation_line`). -/
def decoration (key : String) (v : Validation) : Except EmissionError Decoration :=
  match v.name? with
  | none => .error ⟨key, .namelessValidation⟩
  | some name =>
    if Text.isIdentifier name then .ok ⟨.validator, name, v.arguments⟩
    else .error ⟨key, .invalidValidation name⟩

def decorations (key : String) : List Validation → Except EmissionError (List Decoration)
  | [] => .ok []
  | v :: rest =>
    match v.decoration key with
    | .error e => .error e
    | .ok a =>
      match decorations key rest with
      | .error e => .error e
      | .ok as => .ok (a :: as)

end Validation

namespace Field

def booleanLiteral (b : Bool) : String := if b then "true" else "false"

/-- The options of the API documentation of a field (`api_property`). -/
def apiOptions (f : Field) (doc : String) : List String :=
  ["type: " ++ doc, "required: " ++ booleanLiteral (!f.isNullable)] ++
    (if f.readOnly then ["readOnly: true"] else []) ++
    (match f.defaultValue with
      | some v => ["default: " ++ v.compact]
      | none => [])

/-- The decorations for API documentation and graph queries, where those modules are present. -/
def documentation (f : Field) (capabilities : CapabilitySet) (doc : String) : List Decoration :=
  (if capabilities.openapi then
      [if f.exclude then ⟨.openapi, "ApiHideProperty", ""⟩ else .apiProperty (f.apiOptions doc)]
    else []) ++
    (if capabilities.graphql && !f.exclude then [.graphField doc f.isNullable] else [])

/-- The decoration of a callback that converts the field in one direction. -/
def callback (direction : String) : Option String → List Decoration
  | some key =>
    [⟨.transformer, "Transform",
      "Callbacks.resolve(" ++ Json.quote key ++ "), " ++ inlineObject [direction ++ ": true"]⟩]
  | none => []

def callbacks (f : Field) : List Decoration :=
  callback "toClassOnly" f.transform ++ callback "toPlainOnly" f.toPlain

/-- The declared type of a field, linked or not. -/
def memberType (f : Field) (ctx : EmissionContext) (link : Option LinkTarget) : String :=
  match link with
  | some target => target.declaredType (ctx.usesDocumentIdentity target.model)
  | none => f.declaredType

/-- The initial value of the field's declaration. A field with an object type has code as its
default. -/
def initial (f : Field) : Option String :=
  f.defaultValue.map fun v => defaultLiteral v f.objectType.isSome

/-- What the field needs besides its decorations. -/
def extraNeeds (f : Field) (ctx : EmissionContext) (link : Option LinkTarget) : List ImportRequest :=
  (if f.transform.isSome || f.toPlain.isSome then [.core "Callbacks"] else []) ++
    (match link with
      | some target => if ctx.usesDocumentIdentity target.model then [.storage] else []
      | none => [])

/-- The code of a field in the class of its model (`emit_field`). -/
def code (f : Field) (ctx : EmissionContext) (link : Option LinkTarget) :
    Except EmissionError MemberCode :=
  if !Text.isIdentifier f.propertyKey then .error ⟨f.propertyKey, .invalidPropertyKey⟩
  else if !f.link.isEmpty && link.isNone then .error ⟨f.propertyKey, .unresolvedLink⟩
  else
    match decorationsOf f.propertyKey f.decorators with
    | .error e => .error e
    | .ok decorators =>
      match Validation.decorations f.propertyKey f.validations with
      | .error e => .error e
      | .ok validations =>
        .ok
          { decorations :=
              [f.exposure] ++ f.constraints ++ decorators ++ validations ++
                f.documentation ctx.capabilities (f.docType link) ++ f.callbacks
            declaration := ⟨f.propertyKey, f.isOptional, f.memberType ctx link, f.initial⟩
            needs := f.extraNeeds ctx link }

end Field

end ContractCompiler
