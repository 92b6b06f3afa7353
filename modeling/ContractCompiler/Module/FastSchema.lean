import ContractCompiler.Module.Field

/-!
# Fast schemas

Every model exports the structure that its serializer is compiled from: an object literal that
resembles a JSON Schema and refers to the structures of linked models by name.

The model of `build_schema_structure`, with `scalar_node` and `linked_node`, and of
`render_schema_block`.
-/

namespace ContractCompiler

/-- A node of a schema structure. -/
inductive SchemaNode where
  | object (members : List (String × SchemaNode))
  | array (items : List SchemaNode)
  | value (v : Json)
  /-- A name in scope. -/
  | ref (name : String)
deriving Inhabited

namespace SchemaNode

/-- A text as a node. -/
def text (s : String) : SchemaNode := value (.string s)

/-- A truth value as a node. -/
def flag (b : Bool) : SchemaNode := value (.bool b)

/-- The node is a plain value. -/
def isValue : SchemaNode → Bool
  | value _ => true
  | _ => false

/-- The first member of an object with the given key. -/
def get? (key : String) : SchemaNode → Option SchemaNode
  | object members => (members.find? fun m => m.1 == key).map (·.2)
  | _ => none

/-- A key of an object literal: quoted unless it is an identifier (`object_key`). -/
def keyText (key : String) : String := if Text.isIdentifier key then key else Json.quote key

mutual

/-- The node as an object literal at a nesting depth. An array of plain values stays on one
line. -/
def render (depth : Nat) : SchemaNode → String
  | value v => v.compact
  | ref name => name
  | array items =>
    if items.all isValue then "[" ++ renderInline depth items ++ "]"
    else "[\n" ++ renderItems (depth + 1) items ++ indentBy depth ++ "]"
  | object [] => "\x7b\x7d"
  | object (m :: rest) =>
    "\x7b\n" ++ renderMembers (depth + 1) (m :: rest) ++ indentBy depth ++ "\x7d"

def renderInline (depth : Nat) : List SchemaNode → String
  | [] => ""
  | [x] => render depth x
  | x :: y :: rest => render depth x ++ ", " ++ renderInline depth (y :: rest)

def renderItems (depth : Nat) : List SchemaNode → String
  | [] => ""
  | x :: rest => indentBy depth ++ render depth x ++ ",\n" ++ renderItems depth rest

def renderMembers (depth : Nat) : List (String × SchemaNode) → String
  | [] => ""
  | (key, x) :: rest =>
    indentBy depth ++ keyText key ++ ": " ++ render depth x ++ ",\n" ++ renderMembers depth rest

end

end SchemaNode

/-- The name of a model's exported structure. -/
def structureName (model : String) : String := model ++ "FastSchemaStructure"

/-- The name of a model's compiled serializer. -/
def serializerName (model : String) : String := model ++ "FastSchema"

namespace Field

/-- The node of the type keyword of a type. -/
def typeNode (t : TypeTag) : SchemaNode := .text t.jsonType.keyword

/-- The item type of a field that holds a list. -/
def itemType (f : Field) : Option TypeTag :=
  match f.type with
  | .known .simpleArray => some (f.arrayType.getD (.known .string))
  | .list item => some item
  | t => if f.isRepeated then some t else none

/-- The schema members of a default. -/
def defaultMembers (f : Field) : List (String × SchemaNode) :=
  match f.defaultValue with
  | some v => [("default", .value v)]
  | none => []

/-- The schema of a field that is not linked (`scalar_node`). -/
def plainSchema (f : Field) : SchemaNode :=
  match f.itemType with
  | some item =>
    .object
      ([("type", .text "array"), ("nullable", .flag f.isNullable),
        ("items", .object [("type", typeNode item)])] ++ f.defaultMembers)
  | none =>
    .object ([("type", typeNode f.type), ("nullable", .flag f.isNullable)] ++ f.defaultMembers)

/-- The schema of one linked entity. A model cannot refer to its own structure while that is being
made. -/
def entitySchema (target : LinkTarget) (model : String) : SchemaNode :=
  if target.model = model then .object [("type", .text "object")]
  else .ref (structureName target.model)

/-- The schema of a linked field of `model` (`linked_node`). -/
def linkedSchema (f : Field) (target : LinkTarget) (model : String) : SchemaNode :=
  if target.many || f.isRepeated then
    .object
      [("type", .text "array"), ("nullable", .flag f.isNullable),
       ("items", entitySchema target model)]
  else
    .object
      [("anyOf", .array [entitySchema target model, .object [("type", .text "string")]]),
       ("nullable", .flag f.isNullable)]

/-- The schema of a field of `model`. -/
def schema (f : Field) (link : Option LinkTarget) (model : String) : SchemaNode :=
  match link with
  | some target => f.linkedSchema target model
  | none => f.plainSchema

end Field

namespace Contract

def identitySchema : SchemaNode := .object [("type", .text "string"), ("nullable", .flag false)]

/-- The properties of a model's structure: its identity, then its fields. -/
def schemaProperties (c : Contract) (links : Table LinkTarget) (ctx : EmissionContext) :
    List (String × SchemaNode) :=
  (ctx.identityKey c.modelName).toList.map (fun id => (id, identitySchema)) ++
    c.fields.map fun f => (f.propertyKey, f.schema (links.get? f.propertyKey) c.modelName)

/-- The keys that every stored entity has: its identity, and the fields that are not nullable. -/
def requiredKeys (c : Contract) (ctx : EmissionContext) : List String :=
  (ctx.identityKey c.modelName).toList ++
    (c.fields.filter fun f => !f.isNullable).map Field.propertyKey

/-- The structure of a contract's model (`build_schema_structure`). -/
def schemaStructure (c : Contract) (links : Table LinkTarget) (ctx : EmissionContext) : SchemaNode :=
  .object
    [("title", .text (c.modelName ++ " Schema")), ("type", .text "object"),
     ("properties", .object (c.schemaProperties links ctx)),
     ("required", .array ((c.requiredKeys ctx).map .text))]

end Contract

/-- The exports of a model's structure and of its serializer (`render_schema_block`). -/
def schemaBlock (model : String) (structureNode : SchemaNode) : String :=
  "export const " ++ structureName model ++ " = " ++ structureNode.render 0 ++ ";\n\n" ++
    "export const " ++ serializerName model ++ " = fastJson(" ++ structureName model ++ ");\n"

end ContractCompiler
