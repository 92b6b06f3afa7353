import ContractCompiler.Text.Basic

/-!
# Type tags

The type of a field or message property is written as a tag: one of a fixed set of names, any other
name, or a tag followed by `[]` for a list. Reading is total, and white space around a tag and
around each `[]` is ignored. `TypeTag.tag` writes the canonical tag back.

The model of `ProtoType`.
-/

namespace ContractCompiler

/-- The names of types with a meaning of their own. -/
inductive KnownType where
  | string
  | text
  | bool
  | boolean
  | int32
  | int64
  | float
  | double
  | bytes
  | date
  | timestamp
  | time
  | uuid
  | json
  | jsonb
  | bigint
  | enum
  | any
  | object
  /-- A flat list whose item type is declared beside the tag. -/
  | simpleArray
deriving DecidableEq, Repr

namespace KnownType

def all : List KnownType :=
  [.string, .text, .bool, .boolean, .int32, .int64, .float, .double, .bytes, .date, .timestamp,
   .time, .uuid, .json, .jsonb, .bigint, .enum, .any, .object, .simpleArray]

def name : KnownType → String
  | string => "string"
  | text => "text"
  | bool => "bool"
  | boolean => "boolean"
  | int32 => "int32"
  | int64 => "int64"
  | float => "float"
  | double => "double"
  | bytes => "bytes"
  | date => "date"
  | timestamp => "timestamp"
  | time => "time"
  | uuid => "uuid"
  | json => "json"
  | jsonb => "jsonb"
  | bigint => "bigint"
  | enum => "enum"
  | any => "any"
  | object => "object"
  | simpleArray => "simpleArray"

/-- The known type with the given tag. -/
def ofName? (s : String) : Option KnownType := all.find? fun k => k.name == s

end KnownType

/-- The type of a field or message property (`ProtoType`). -/
inductive TypeTag where
  | known (type : KnownType)
  | list (item : TypeTag)
  /-- A name outside the known set, kept as written. -/
  | other (name : String)
deriving DecidableEq, Repr

namespace TypeTag

/-- The characters before a final `[]`. -/
def beforeBrackets? (cs : List Char) : Option (List Char) :=
  match cs.reverse with
  | ']' :: '[' :: rest => some rest.reverse
  | _ => none

theorem length_of_beforeBrackets? {cs inner : List Char} (h : beforeBrackets? cs = some inner) :
    cs.length = inner.length + 2 := by
  unfold beforeBrackets? at h
  split at h
  · rename_i rest hr
    have hl : cs.reverse.length = rest.length + 2 := by rw [hr]; rfl
    obtain rfl := Option.some.inj h
    simpa using hl
  · cases h

theorem length_trim_le (cs : List Char) : (Text.trim cs).length ≤ cs.length := by
  have hd : ∀ l : List Char, (l.dropWhile Text.isBlank).length ≤ l.length :=
    fun l => (List.dropWhile_suffix _).length_le
  unfold Text.trim Text.trimEnd Text.trimStart
  rw [List.length_reverse]
  refine Nat.le_trans (hd _) ?_
  rw [List.length_reverse]
  exact hd _

/-- Reads a tag from its characters. -/
def ofChars (cs : List Char) : TypeTag :=
  match _h : beforeBrackets? (Text.trim cs) with
  | some inner => .list (ofChars inner)
  | none =>
    let name := String.ofList (Text.trim cs)
    match KnownType.ofName? name with
    | some k => .known k
    | none => .other name
termination_by cs.length
decreasing_by
  have h1 := length_of_beforeBrackets? _h
  have h2 := length_trim_le cs
  omega

/-- Reads a tag; every text is one (`ProtoType.parse`). -/
def ofString (s : String) : TypeTag := ofChars s.toList

/-- The canonical tag (`as_tag`). -/
def tag : TypeTag → String
  | known k => k.name
  | list item => item.tag ++ "[]"
  | other name => name

/-- The type is a list by its tag alone (`is_array_like`). -/
def isListLike : TypeTag → Bool
  | known .simpleArray => true
  | list _ => true
  | _ => false

end TypeTag

end ContractCompiler
