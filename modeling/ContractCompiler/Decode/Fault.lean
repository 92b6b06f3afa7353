import ContractCompiler.Text.Quoted

/-!
# Why a document does not fit its type

A `Reason` says what is wrong with one value, a `Path` where the value stands, and a `Fault` is
what reading a document can end with. `Fault.message` is the text shown to the user; a document
that cannot be read at all has none.
-/

namespace ContractCompiler.Decode

/-- What a document holds where something else is expected. -/
inductive Found where
  | null
  | unit
  | bool (value : Bool)
  | integer (value : Int)
  /-- An integer beyond 64 bits. -/
  | wide (value : Int)
  | float (text : String)
  | string (value : String)
  | sequence
  | map
  | enumeration
deriving DecidableEq, Repr

/-- The description of what was found. -/
def Found.text : Found → String
  | null => "null"
  | unit => "unit value"
  | bool b => "boolean `" ++ (if b then "true" else "false") ++ "`"
  | integer i => "integer `" ++ toString i ++ "`"
  | wide i => "integer `" ++ toString i ++ "` as " ++ (if i < 0 then "i128" else "u128")
  | float t => "floating point `" ++ t ++ "`"
  | string s => "string " ++ Text.quoted s
  | sequence => "sequence"
  | map => "map"
  | enumeration => "enum"

/-- Why a value is refused. -/
inductive Reason where
  | invalidType (found : Found) (expected : String)
  | invalidValue (found : Found) (expected : String)
  | invalidLength (length : Nat) (expected : String)
  | unknownVariant (name : String) (variants : List String)
  | missingField (name : String)
  | duplicateField (name : String)
  /-- None of the accepted shapes of the named type fits. -/
  | noShape (type : String)
  /-- A tag stands where a shape has to be guessed. -/
  | taggedShape
  /-- An integer beyond 64 bits stands where any value may stand. -/
  | numberRange
deriving DecidableEq, Repr

/-- The names in backquotes, as alternatives. -/
def alternatives : List String → String
  | [] => "there are no variants"
  | [a] => "expected `" ++ a ++ "`"
  | [a, b] => "expected `" ++ a ++ "` or `" ++ b ++ "`"
  | names => "expected one of " ++ ", ".intercalate (names.map fun n => "`" ++ n ++ "`")

/-- The text of a reason. -/
def Reason.text : Reason → String
  | invalidType found expected => "invalid type: " ++ found.text ++ ", expected " ++ expected
  | invalidValue found expected => "invalid value: " ++ found.text ++ ", expected " ++ expected
  | invalidLength n expected => "invalid length " ++ toString n ++ ", expected " ++ expected
  | unknownVariant name variants => "unknown variant `" ++ name ++ "`, " ++ alternatives variants
  | missingField name => "missing field `" ++ name ++ "`"
  | duplicateField name => "duplicate field `" ++ name ++ "`"
  | noShape type => "data did not match any variant of untagged enum " ++ type
  | taggedShape => "untagged and internally tagged enums do not support enum input"
  | numberRange => "JSON number out of range"

/-- One step from a container to a value in it. -/
inductive Step where
  | index (i : Nat)
  | key (name : String)
  /-- The value of a key that is not a scalar. -/
  | unknown
deriving DecidableEq, Repr

/-- The way from the root of a document to a value, last step first. -/
abbrev Path := List Step

/-- The text of a path: `fields[0].name`, and a single point for the root. -/
def Path.text : Path → String
  | [] => "."
  | .index i :: parent => Path.text parent ++ "[" ++ toString i ++ "]"
  | .key name :: [] => name
  | .key name :: parent => Path.text parent ++ "." ++ name
  | .unknown :: [] => "?"
  | .unknown :: parent => Path.text parent ++ ".?"

/-- What reading a typed document can end with. -/
inductive Fault where
  /-- The text is no document of its format. -/
  | unreadable
  /-- A value does not fit its type. -/
  | misfit (path : Option Path) (reason : Reason)
  /-- Containers nest too deep. -/
  | depthLimit
  /-- Aliases are followed too often. -/
  | aliasLimit
deriving DecidableEq, Repr

namespace Fault

/-- A misfit whose place is not known yet. -/
def of (reason : Reason) : Fault := misfit none reason

/-- Gives a misfit a place, unless it has one. -/
def locate (path : Path) : Fault → Fault
  | misfit none reason => misfit (some path) reason
  | f => f

/-- The text of a fault; none when the document cannot be read. A place that reads like the root is
not named. -/
def message : Fault → Option String
  | unreadable => none
  | misfit none reason => some reason.text
  | misfit (some path) reason =>
    some (if path.text == Path.text [] then reason.text else path.text ++ ": " ++ reason.text)
  | depthLimit => some "recursion limit exceeded"
  | aliasLimit => some "repetition limit exceeded"

end Fault

end ContractCompiler.Decode
