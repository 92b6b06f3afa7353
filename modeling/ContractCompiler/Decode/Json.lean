import ContractCompiler.Decode.Source
import ContractCompiler.Json.Printer

/-!
# Reading typed values from JSON values

A JSON value is exact about its types: no text stands for a number, and only `null` is absent. A
record may be written as a list, and a name from a fixed list as an object with that one key.
-/

namespace ContractCompiler

/-- How a JSON value is described in a message. -/
def Json.found : Json → Decode.Found
  | null => .null
  | bool b => .bool b
  | number (.integer i _) => .integer i
  | number (.double d) => .float (d.render .json)
  | string s => .string s
  | array _ => .sequence
  | object _ => .map

namespace Decode

/-- The value is of the wrong type. -/
def wrongType {α : Type} (v : Json) (expected : String) : Except Fault α :=
  .error (.of (.invalidType v.found expected))

/-- A number as an unsigned word. -/
def wordOfNumber : JsonNumber → Except Fault UInt64
  | .integer i _ =>
    if 0 ≤ i then .ok (UInt64.ofNat i.toNat) else .error (.of (.invalidValue (.integer i) "u64"))
  | .double d => wrongType (.number (.double d)) "u64"

/-- A name that has to be in a list. -/
def chosen (names : List String) (name : String) : Except Fault String :=
  if names.contains name then .ok name else .error (.of (.unknownVariant name names))

/-- Reads a name of a list. -/
def choiceOfJson (names : List String) : Json → Except Fault String
  | .string s => chosen names s
  | .object [(key, value)] =>
    match chosen names key with
    | .error f => .error f
    | .ok name =>
      match value with
      | .null => .ok name
      | v => wrongType v "unit"
  | .object _ => .error (.of (.invalidValue .map "map with a single key"))
  | v => wrongType v "string or map"

instance : Source Json (Except Fault) where
  text
    | .string s, _ => .ok s
    | v, expected => wrongType v expected
  flag
    | .bool b => .ok b
    | v => wrongType v "a boolean"
  word
    | .number n => wordOfNumber n
    | v => wrongType v "u64"
  present?
    | .null => .ok none
    | v => .ok (some v)
  items
    | .array items => .ok ⟨items, none⟩
    | v => wrongType v "a sequence"
  entries
    | .object members, _ => .ok ⟨members.map fun m => (.string m.1, m.2), none⟩
    | v, expected => wrongType v expected
  record
    | .array items, _ => .ok (.list ⟨items, none⟩)
    | .object members, _ => .ok (.entries ⟨members.map fun m => (.string m.1, m.2), none⟩)
    | v, expected => wrongType v expected
  choice v names := choiceOfJson names v
  json v := .ok v
  content v := .ok (.ofJson v)
  skip _ := .ok ()
  surplus _ length := .of (.invalidLength length "fewer elements in array")
  locate _ f := f

end Decode

end ContractCompiler
