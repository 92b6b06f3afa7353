import ContractCompiler.Decimal
import ContractCompiler.Json.Value
import ContractCompiler.Text.Quoted

/-!
# JSON text

`Json.compact` writes a value on one line without spaces; `Json.pretty` indents by two spaces.
Members keep their order. Strings escape the quote, the backslash and the control characters below
U+0020, and nothing else.
-/

namespace ContractCompiler

/-- Doubles from 10⁻⁵ up to 10¹⁶ are positional, and positive exponents carry a plus sign. -/
def DecimalLayout.json : DecimalLayout := ⟨-5, 16, true⟩

def JsonNumber.render : JsonNumber → String
  | integer i _ => toString i
  | double d => d.render .json

namespace Json

/-- A character inside a string literal. -/
def escapeChar (c : Char) : List Char :=
  if c = '"' then ['\\', '"']
  else if c = '\\' then ['\\', '\\']
  else if c = '\n' then ['\\', 'n']
  else if c = '\r' then ['\\', 'r']
  else if c = '\t' then ['\\', 't']
  else if c.toNat = 8 then ['\\', 'b']
  else if c.toNat = 12 then ['\\', 'f']
  else if c.toNat < 32 then ['\\', 'u', '0', '0', Text.hexDigit (c.toNat / 16),
      Text.hexDigit (c.toNat % 16)]
  else [c]

def quote (s : String) : String :=
  String.ofList ('"' :: s.toList.flatMap escapeChar ++ ['"'])

mutual

/-- The value on one line (`literal`). -/
def compact : Json → String
  | null => "null"
  | bool b => if b then "true" else "false"
  | number n => n.render
  | string s => quote s
  | array items => "[" ++ compactItems items ++ "]"
  | object members => "\x7b" ++ compactMembers members ++ "\x7d"

def compactItems : List Json → String
  | [] => ""
  | [x] => compact x
  | x :: y :: rest => compact x ++ "," ++ compactItems (y :: rest)

def compactMembers : List (String × Json) → String
  | [] => ""
  | [(k, x)] => quote k ++ ":" ++ compact x
  | (k, x) :: m :: rest => quote k ++ ":" ++ compact x ++ "," ++ compactMembers (m :: rest)

end

/-- Two spaces for each level. -/
def indentation (level : Nat) : String := String.ofList (List.replicate (2 * level) ' ')

mutual

/-- The value over several lines, nested at `level`. Empty containers stay on one line. -/
def prettyAt (level : Nat) : Json → String
  | null => "null"
  | bool b => if b then "true" else "false"
  | number n => n.render
  | string s => quote s
  | array [] => "[]"
  | array (x :: rest) =>
    "[\n" ++ prettyItems (level + 1) (x :: rest) ++ "\n" ++ indentation level ++ "]"
  | object [] => "\x7b\x7d"
  | object (m :: rest) =>
    "\x7b\n" ++ prettyMembers (level + 1) (m :: rest) ++ "\n" ++ indentation level ++ "\x7d"

def prettyItems (level : Nat) : List Json → String
  | [] => ""
  | [x] => indentation level ++ prettyAt level x
  | x :: y :: rest => indentation level ++ prettyAt level x ++ ",\n" ++ prettyItems level (y :: rest)

/-- Members on lines of their own. -/
def prettyMembers (level : Nat) : List (String × Json) → String
  | [] => ""
  | [(k, x)] => indentation level ++ quote k ++ ": " ++ prettyAt level x
  | (k, x) :: m :: rest =>
    indentation level ++ quote k ++ ": " ++ prettyAt level x ++ ",\n" ++ prettyMembers level (m :: rest)

end

/-- The value over several lines, indented by two spaces. -/
def pretty (v : Json) : String := prettyAt 0 v

end Json

end ContractCompiler
