import ContractCompiler.Decimal
import ContractCompiler.Json.Printer
import ContractCompiler.Yaml.Cursor
import ContractCompiler.Yaml.Meaning

/-!
# YAML text

`Yaml.render` writes a value in block style. Maps nest by two spaces, a list that is the value of a
key stands at the key's column, and empty containers are `[]` and `{}`. A text is plain where it
reads back as the same text, else it is quoted; a text of several lines is written literally where
its white space allows.

Every node's text ends with a line break, so nodes can follow each other.
-/

namespace ContractCompiler

/-- Doubles from 10⁻⁵ up to 10¹⁶ are positional, and positive exponents carry no sign. -/
def DecimalLayout.yaml : DecimalLayout := ⟨-5, 16, false⟩

namespace Yaml

/-! ## What a text holds -/

/-- What the characters of a text say about its styles. -/
structure TextTraits where
  /-- It reads as something else in block style. -/
  indicator : Bool
  /-- It holds an end of line. -/
  lines : Bool
  /-- A character has to be escaped. -/
  special : Bool
  /-- The first or the last character is a space or ends a line. -/
  bareEnds : Bool
  /-- The last character is a space. -/
  spaceAtEnd : Bool
  /-- A space follows the end of a line. -/
  spaceAfterBreak : Bool
  /-- A space stands before the end of a line. -/
  spaceBeforeBreak : Bool

/-- Characters that mean something at the start of a scalar. -/
def leadingIndicators : List Char :=
  ['#', ',', '[', ']', '\x7b', '\x7d', '&', '*', '!', '|', '>', '\'', '"', '%', '@', '\x60']

/-- The first character makes the text something else than a plain scalar. -/
def startsIndicator : List Char → Bool
  | [] => false
  | c :: rest =>
    leadingIndicators.contains c || ((c == '?' || c == ':' || c == '-') && startsBlank rest)

/-- A character after the first ends a plain scalar: a colon before white space, or a number sign
after it. -/
def hasInnerIndicator : List Char → Bool
  | a :: b :: rest =>
    (b == ':' && startsBlank rest) || (b == '#' && (isGap a || isBreak a)) ||
      hasInnerIndicator (b :: rest)
  | _ => false

/-- The text begins like a document marker. -/
def startsMarker (cs : List Char) : Bool :=
  ['-', '-', '-'].isPrefixOf cs || ['.', '.', '.'].isPrefixOf cs

/-- Some two neighbours are related. -/
def anyNeighbours (related : Char → Char → Bool) : List Char → Bool
  | a :: b :: rest => related a b || anyNeighbours related (b :: rest)
  | _ => false

/-- A space or the end of a line. -/
def isBare (c : Char) : Bool := c == ' ' || isBreak c

/-- The traits of a text. -/
def TextTraits.ofText (cs : List Char) : TextTraits where
  indicator := startsMarker cs || startsIndicator cs || hasInnerIndicator cs
  lines := cs.any isBreak
  special := cs.any fun c => !isPrintable c
  bareEnds := cs.head?.any isBare || cs.getLast?.any isBare
  spaceAtEnd := cs.getLast? == some ' '
  spaceAfterBreak := anyNeighbours (fun a b => isBreak a && b == ' ') cs
  spaceBeforeBreak := anyNeighbours (fun a b => a == ' ' && isBreak b) cs

namespace TextTraits

/-- The text can be written without quotes. -/
def allowsPlain (t : TextTraits) : Bool :=
  !t.indicator && !t.lines && !t.special && !t.bareEnds

/-- The text can be written between single quotes. -/
def allowsSingle (t : TextTraits) : Bool := !t.special && !t.spaceAfterBreak && !t.spaceBeforeBreak

/-- The text can be written literally. -/
def allowsLiteral (t : TextTraits) : Bool := !t.special && !t.spaceBeforeBreak && !t.spaceAtEnd

end TextTraits

/-! ## Styles -/

/-- Some spaces. -/
def spaces (n : Nat) : List Char := List.replicate n ' '

/-- The characters of a text over several lines: whatever follows the end of a line is indented.
`fresh` says that a line begins. -/
def indentLines (indent : Nat) (fresh : Bool) : List Char → List Char
  | [] => []
  | c :: rest =>
    if isBreak c then c :: indentLines indent true rest
    else (if fresh then spaces indent else []) ++ c :: indentLines indent false rest

/-- A single quote is doubled. -/
def doubleQuotes (cs : List Char) : List Char := cs.flatMap fun c => if c = '\'' then [c, c] else [c]

/-- The text between single quotes. -/
def singleQuoted (indent : Nat) (cs : List Char) : List Char :=
  ['\''] ++ indentLines indent false (doubleQuotes cs) ++
    (if cs.getLast?.any isBreak then spaces indent else []) ++ ['\'']

/-- A digit of an escape. -/
def escapeDigit (n : Nat) : Char := if n < 10 then Char.ofNat (48 + n) else Char.ofNat (55 + n)

/-- The last `width` hexadecimal digits of a number. -/
def escapeDigits : Nat → Nat → List Char
  | 0, _ => []
  | width + 1, n => escapeDigits width (n / 16) ++ [escapeDigit (n % 16)]

/-- The letter of an escape that is a single letter. -/
def escapeLetter? (c : Char) : Option Char :=
  match c.toNat with
  | 0x00 => some '0'
  | 0x07 => some 'a'
  | 0x08 => some 'b'
  | 0x09 => some 't'
  | 0x0A => some 'n'
  | 0x0B => some 'v'
  | 0x0C => some 'f'
  | 0x0D => some 'r'
  | 0x1B => some 'e'
  | 0x22 => some '"'
  | 0x5C => some '\\'
  | 0x85 => some 'N'
  | 0x2028 => some 'L'
  | 0x2029 => some 'P'
  | _ => none

/-- The escape of a character. -/
def escape (c : Char) : List Char :=
  match escapeLetter? c with
  | some l => ['\\', l]
  | none =>
    if c.toNat ≤ 0xFF then ['\\', 'x'] ++ escapeDigits 2 c.toNat
    else if c.toNat ≤ 0xFFFF then ['\\', 'u'] ++ escapeDigits 4 c.toNat
    else ['\\', 'U'] ++ escapeDigits 8 c.toNat

/-- A character between double quotes. -/
def doubleQuotedChar (c : Char) : List Char :=
  if !isPrintable c || isBreak c || c == '"' || c == '\\' then escape c else [c]

/-- The text between double quotes. -/
def doubleQuoted (cs : List Char) : List Char := ['"'] ++ cs.flatMap doubleQuotedChar ++ ['"']

/-- How many ends of line at the end of a literal text count: exactly one is the usual case, none
and more carry a mark. -/
def endMark (cs : List Char) : List Char :=
  match cs.reverse with
  | [] => ['-']
  | [c] => if isBreak c then ['+'] else ['-']
  | c :: d :: _ => if !isBreak c then ['-'] else if isBreak d then ['+'] else []

/-- The first line of a literal text; the indentation is stated where it cannot be seen. -/
def literalHeader (cs : List Char) : List Char :=
  ['|'] ++ (if cs.head?.any isBare then ['2'] else []) ++ endMark cs ++ ['\n']

/-- A line break, unless the text ends a line already. -/
def lineEnd (cs : List Char) : List Char := if cs.getLast?.any isBreak then [] else ['\n']

/-- The text written literally, line by line. -/
def literal (indent : Nat) (cs : List Char) : List Char :=
  literalHeader cs ++ indentLines indent true cs ++ lineEnd cs

/-- The text reads back as a text without quotes. -/
def readsAsText (s : String) : Bool := Meaning.ofText s == .text && !hasSpareZero s.toList

/-- A quoted text; single quotes where they will do. -/
def quotedText (indent : Nat) (cs : List Char) : List Char :=
  if (TextTraits.ofText cs).allowsSingle then singleQuoted indent cs else doubleQuoted cs

/-- A text on the lines that it needs, the last one ended. -/
def textLines (indent : Nat) (s : String) : List Char :=
  let cs := s.toList
  let traits := TextTraits.ofText cs
  if cs.contains '\n' then
    if traits.allowsLiteral then literal indent cs else doubleQuoted cs ++ ['\n']
  else if readsAsText s && traits.allowsPlain then cs ++ ['\n']
  else quotedText indent cs ++ ['\n']

/-- A text without the line break that ends it: a key before its colon. -/
def keyText (indent : Nat) (s : String) : List Char := (textLines indent s).dropLast

/-- The longest key, in bytes, that stands before its colon without a mark. -/
def maxKeyBytes : Nat := 128

/-- The key stands before its colon without a mark: it is short and has one line. -/
def isSimpleKey (s : String) : Bool := !s.toList.any isBreak && decide (s.utf8ByteSize ≤ maxKeyBytes)

/-! ## Nodes -/

/-- The text of a number. -/
def numberText : JsonNumber → String
  | .integer i _ => toString i
  | .double d => d.render .yaml

mutual

/-- A node after a mark such as `-` in column `indent`; contents stand two columns further. -/
def afterMark (indent : Nat) : Json → List Char
  | .null => " null\n".toList
  | .bool b => if b then " true\n".toList else " false\n".toList
  | .number n => ' ' :: (numberText n).toList ++ ['\n']
  | .string s => ' ' :: textLines (indent + 2) s
  | .array [] => " []\n".toList
  | .array (x :: rest) => " -".toList ++ afterMark (indent + 2) x ++ itemLines (indent + 2) rest
  | .object [] => " \x7b\x7d\n".toList
  | .object (m :: rest) => ' ' :: entryLines (indent + 2) m ++ memberLines (indent + 2) rest

/-- A node after a key and its colon in column `indent`. -/
def afterColon (indent : Nat) : Json → List Char
  | .null => " null\n".toList
  | .bool b => if b then " true\n".toList else " false\n".toList
  | .number n => ' ' :: (numberText n).toList ++ ['\n']
  | .string s => ' ' :: textLines (indent + 2) s
  | .array [] => " []\n".toList
  | .array (x :: rest) => '\n' :: spaces indent ++ '-' :: afterMark indent x ++ itemLines indent rest
  | .object [] => " \x7b\x7d\n".toList
  | .object (m :: rest) =>
    '\n' :: spaces (indent + 2) ++ entryLines (indent + 2) m ++ memberLines (indent + 2) rest

/-- The items of a list, each on lines of its own. -/
def itemLines (indent : Nat) : List Json → List Char
  | [] => []
  | x :: rest => spaces indent ++ '-' :: afterMark indent x ++ itemLines indent rest

/-- A key and its value, without the indentation before the key. -/
def entryLines (indent : Nat) : String × Json → List Char
  | (key, value) =>
    if isSimpleKey key then keyText (indent + 2) key ++ ':' :: afterColon indent value
    else
      "? ".toList ++ textLines (indent + 2) key ++ spaces indent ++ ':' :: afterMark indent value

/-- The members of a map, each on lines of its own. -/
def memberLines (indent : Nat) : List (String × Json) → List Char
  | [] => []
  | m :: rest => spaces indent ++ entryLines indent m ++ memberLines indent rest

end

/-- The text of a document. -/
def render : Json → String
  | .null => "null\n"
  | .bool b => if b then "true\n" else "false\n"
  | .number n => numberText n ++ "\n"
  | .string s => String.ofList (textLines 2 s)
  | .array [] => "[]\n"
  | .array items => String.ofList (itemLines 0 items)
  | .object [] => "\x7b\x7d\n"
  | .object members => String.ofList (memberLines 0 members)

end Yaml

end ContractCompiler
