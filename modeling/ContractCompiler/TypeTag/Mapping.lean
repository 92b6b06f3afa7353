import ContractCompiler.Text.Case
import ContractCompiler.TypeTag.Basic

/-!
# What a type becomes

A type tag has three representations: the type written in generated code (`TypeTag.target`), the
JSON Schema keyword of a fast schema (`TypeTag.jsonType`), and the boxed name used in API
documentation (`TypeTag.docType`). All are total; a name outside the known set becomes `any`.

The model of `to_target_type`, `to_json_type` and `doc_type_for`.
-/

namespace ContractCompiler

/-- The JSON Schema keywords of a fast schema. -/
inductive JsonType where
  | string
  | integer
  | number
  | boolean
  | object
  | array
  | any
deriving DecidableEq, Repr

/-- The keyword as written into a schema. -/
def JsonType.keyword : JsonType → String
  | string => "string"
  | integer => "integer"
  | number => "number"
  | boolean => "boolean"
  | object => "object"
  | array => "array"
  | any => "any"

/-- The type written in generated code. -/
def KnownType.target : KnownType → String
  | string | text | date | timestamp | time | uuid | enum => "string"
  | bool | boolean => "boolean"
  | int32 | int64 | float | double => "number"
  | bytes => "Uint8Array"
  | bigint => "bigint"
  | object => "object"
  | simpleArray => "string[]"
  | json | jsonb | any => "any"

def KnownType.jsonType : KnownType → JsonType
  | int32 | int64 | bigint => .integer
  | float | double => .number
  | bool | boolean => .boolean
  | json | jsonb | object => .object
  | simpleArray => .array
  | string | text | date | timestamp | time | uuid | enum | bytes => .string
  | any => .any

namespace TypeTag

/-- The type written in generated code (`to_target_type`). -/
def target : TypeTag → String
  | known k => k.target
  | list item => item.target ++ "[]"
  | other _ => "any"

/-- `to_json_type`. -/
def jsonType : TypeTag → JsonType
  | known k => k.jsonType
  | list _ => .array
  | other _ => .any

end TypeTag

/-- The documentation name of a type name that is not a list. -/
def boxedName (name : String) : String :=
  if name = "number" then "Number"
  else if name = "string" then "String"
  else if name = "boolean" then "Boolean"
  else if name = "bigint" then "BigInt"
  else if name = "any" || name = "object" || name = "" then "Object"
  else if name = "Uint8Array" then "Uint8Array"
  else Text.capitalized name

/-- The documentation form of a type of generated code, from its characters: each `[]` becomes a
pair of brackets around the rest. -/
def boxedChars (cs : List Char) : String :=
  match _h : TypeTag.beforeBrackets? (Text.trim cs) with
  | some inner => "[" ++ boxedChars inner ++ "]"
  | none => boxedName (String.ofList (Text.trim cs))
termination_by cs.length
decreasing_by
  have h1 := TypeTag.length_of_beforeBrackets? _h
  have h2 := TypeTag.length_trim_le cs
  omega

/-- The documentation form of a type of generated code: `number` is `Number`, `string[]` is
`[String]` (`to_doc_type`). -/
def boxed (target : String) : String := boxedChars target.toList

namespace TypeTag

/-- The documentation form of a value of this type (`doc_type_for`). A `simpleArray` takes its item
type from `item`, which is `string` when absent; any other value of a repeated declaration is a list
of its type. -/
def docType (t : TypeTag) (item : Option TypeTag) (repeated : Bool) : String :=
  match t with
  | known .simpleArray =>
    let itemType := match item with
      | some i => i.target
      | none => "string"
    "[" ++ boxed itemType ++ "]"
  | list _ => boxed t.target
  | _ => if repeated then "[" ++ boxed t.target ++ "]" else boxed t.target

end TypeTag

end ContractCompiler
