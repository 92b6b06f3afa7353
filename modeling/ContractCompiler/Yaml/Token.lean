/-!
# Tokens of YAML

The words and marks of a YAML text. Indentation appears as tokens that open and close block
collections, and a key that is recognised by the colon after it is announced before it begins.
-/

namespace ContractCompiler.Yaml

/-! ## Tags

A tag says what a node is. It is a sequence of octets, which escapes can make anything but UTF-8; a
zero octet ends it. The tags of the core schema fix the type of a scalar, and a tag that begins with
an exclamation mark names one of several alternatives.
-/

/-- A tag, or the part of one that a handle stands for. -/
structure Tag where
  octets : List UInt8
deriving DecidableEq, Repr

namespace Tag

/-- The tag that octets write, up to the first zero. -/
def ofOctets (octets : List UInt8) : Tag := ⟨octets.takeWhile (· != 0)⟩

/-- The tag that a text writes. -/
def ofString (s : String) : Tag := ofOctets s.toUTF8.data.toList

/-- Nothing is written. -/
def isEmpty (t : Tag) : Bool := t.octets.isEmpty

/-- A tag in two parts. -/
def append (start rest : Tag) : Tag := ⟨start.octets ++ rest.octets⟩

/-- The exclamation mark. -/
def mark : UInt8 := 0x21

/-- A lone exclamation mark. -/
def lone : Tag := ⟨[mark]⟩

/-- A tag of the core schema. -/
def core (name : String) : Tag := ofString ("tag:yaml.org,2002:" ++ name)

/-- The tag begins with an exclamation mark. -/
def isLocal (t : Tag) : Bool := t.octets.head? == some mark

/-- The alternative that a tag names: the text after its exclamation mark, and a lone mark itself.
Octets that are no UTF-8 name nothing. -/
def alternative? (t : Tag) : Option String :=
  if t == lone then some "!"
  else if t.isLocal then String.fromUTF8? (t.octets.drop 1).toByteArray
  else none

end Tag

/-! ## Tokens -/

/-- How a scalar is written. -/
inductive ScalarStyle where
  | plain
  /-- Between single or double quotes. -/
  | quoted
  | literal
  | folded
deriving DecidableEq, Repr

/-- A tag as written: its handle and the rest. -/
structure TagMark where
  handle : String
  suffix : Tag
deriving DecidableEq, Repr

/-- A token. -/
inductive Token where
  | version (major minor : Nat)
  /-- What a handle of tags stands for. -/
  | handle (name : String) (meaning : Tag)
  | documentStart
  | documentEnd
  | sequenceStart
  | mappingStart
  | blockEnd
  | openBracket
  | closeBracket
  | openBrace
  | closeBrace
  /-- The dash before an item. -/
  | item
  | comma
  | key
  | value
  | reference (name : String)
  | anchor (name : String)
  | tag (mark : TagMark)
  | scalar (style : ScalarStyle) (text : String)
deriving DecidableEq, Repr

end ContractCompiler.Yaml
