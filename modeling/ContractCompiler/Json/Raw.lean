import ContractCompiler.Json.Numeral

/-!
# JSON text as written

`Raw.ofText` reads a JSON text into a tree that keeps what a value forgets: repeated keys, strings
and numbers that no value can hold, and the places where the text stops being JSON. A reader of
typed values can then report the first fault in the order of the text, and `Raw.toJson` gives the
plain value of a text without faults.
-/

namespace ContractCompiler

namespace Json

/-- A JSON text as written. -/
inductive Raw where
  | null
  | bool (value : Bool)
  /-- A number, unless it is beyond the doubles. -/
  | number (value : Option JsonNumber)
  /-- A string, unless it holds half of a surrogate pair. -/
  | string (value : Option String)
  /-- The items of an array at a nesting level; `closed` unless the text ends or goes wrong. -/
  | array (level : Nat) (items : List Raw) (closed : Bool)
  /-- The members of an object, likewise. -/
  | object (level : Nat) (members : List (Option String × Raw)) (closed : Bool)
  /-- No value stands here. -/
  | broken
deriving Repr, Inhabited

namespace Raw

def isSpace (c : Char) : Bool := c = ' ' || c = '\n' || c = '\t' || c = '\r'

/-- The text without white space at its front. -/
def skipSpace (cs : List Char) : List Char := cs.dropWhile isSpace

/-- The value of a hexadecimal digit. -/
def hexValue? (c : Char) : Option Nat :=
  if c.isDigit then some (c.toNat - 48)
  else if 'a' ≤ c ∧ c ≤ 'f' then some (c.toNat - 87)
  else if 'A' ≤ c ∧ c ≤ 'F' then some (c.toNat - 55)
  else none

/-- Four hexadecimal digits. -/
def hexUnit? (a b c d : Char) : Option Nat :=
  match hexValue? a, hexValue? b, hexValue? c, hexValue? d with
  | some a, some b, some c, some d => some (((a * 16 + b) * 16 + c) * 16 + d)
  | _, _, _, _ => none

/-- The character of a one-letter escape. -/
def escaped? (c : Char) : Option Char :=
  if c = '"' ∨ c = '\\' ∨ c = '/' then some c
  else if c = 'b' then some (Char.ofNat 8)
  else if c = 'f' then some (Char.ofNat 12)
  else if c = 'n' then some '\n'
  else if c = 'r' then some '\r'
  else if c = 't' then some '\t'
  else none

/-- A piece of a string: a character, or a 16-bit unit from an escape. -/
inductive Piece where
  | char (c : Char)
  | unit (n : Nat)

/-- The pieces of a string up to its closing quote, and the rest of the text. -/
def readPieces (pieces : List Piece) : List Char → Option (List Piece × List Char)
  | [] => none
  | '"' :: rest => some (pieces.reverse, rest)
  | '\\' :: 'u' :: a :: b :: c :: d :: rest =>
    match hexUnit? a b c d with
    | some n => readPieces (.unit n :: pieces) rest
    | none => none
  | '\\' :: c :: rest =>
    match escaped? c with
    | some e => readPieces (.char e :: pieces) rest
    | none => none
  | c :: rest => if c.toNat < 32 || c = '\\' then none else readPieces (.char c :: pieces) rest

/-- The characters of the pieces, when every surrogate stands in a pair. -/
def decodePieces : List Piece → Option (List Char)
  | [] => some []
  | .char c :: rest => (decodePieces rest).map (c :: ·)
  | .unit n :: rest =>
    if n < 0xD800 ∨ 0xE000 ≤ n then (decodePieces rest).map (Char.ofNat n :: ·)
    else if 0xDC00 ≤ n then none
    else
      match rest with
      | .unit m :: rest =>
        if 0xDC00 ≤ m ∧ m < 0xE000 then
          (decodePieces rest).map (Char.ofNat (0x10000 + (n - 0xD800) * 1024 + (m - 0xDC00)) :: ·)
        else none
      | _ => none

/-- The text after an opening quote: the string, and the rest. -/
def readString (cs : List Char) : Option (Option String × List Char) :=
  match readPieces [] cs with
  | none => none
  | some (pieces, rest) => some ((decodePieces pieces).map String.ofList, rest)

/-- What follows a word, if the text begins with it. -/
def afterWord (word : List Char) (cs : List Char) : Option (List Char) :=
  if word.isPrefixOf cs then some (cs.drop word.length) else none

/-- A value that is the given word. -/
def readWord (word : String) (value : Raw) (cs : List Char) : Raw × Option (List Char) :=
  match afterWord word.toList cs with
  | some rest => (value, some rest)
  | none => (broken, none)

mutual

/-- The value at the front of a text, at a nesting level, and the rest of the text; no rest where
the text goes wrong. `fuel` exceeds the length of the text. -/
def readValue (level : Nat) : Nat → List Char → Raw × Option (List Char)
  | 0, _ => (broken, none)
  | fuel + 1, cs =>
    match skipSpace cs with
    | [] => (broken, none)
    | c :: rest =>
      if c = '"' then
        match readString rest with
        | some (s, rest) => (string s, some rest)
        | none => (broken, none)
      else if c = '[' then
        match skipSpace rest with
        | ']' :: rest => (array (level + 1) [] true, some rest)
        | rest =>
          match readItems (level + 1) fuel rest with
          | (items, some rest) => (array (level + 1) items true, some rest)
          | (items, none) => (array (level + 1) items false, none)
      else if c = '\x7b' then
        match skipSpace rest with
        | '\x7d' :: rest => (object (level + 1) [] true, some rest)
        | rest =>
          match readMembers (level + 1) fuel rest with
          | (members, some rest) => (object (level + 1) members true, some rest)
          | (members, none) => (object (level + 1) members false, none)
      else if c = 'n' then readWord "null" null (c :: rest)
      else if c = 't' then readWord "true" (bool true) (c :: rest)
      else if c = 'f' then readWord "false" (bool false) (c :: rest)
      else
        match readNumeral (c :: rest) with
        | some (numeral, rest) => (number numeral.toNumber?, some rest)
        | none => (broken, none)

def readItems (level : Nat) : Nat → List Char → List Raw × Option (List Char)
  | 0, _ => ([], none)
  | fuel + 1, cs =>
    match readValue level fuel cs with
    | (x, none) => ([x], none)
    | (x, some rest) =>
      match skipSpace rest with
      | ']' :: rest => ([x], some rest)
      | ',' :: rest =>
        match readItems level fuel rest with
        | (items, after) => (x :: items, after)
      | _ => ([x], none)

def readMembers (level : Nat) : Nat → List Char → List (Option String × Raw) × Option (List Char)
  | 0, _ => ([], none)
  | fuel + 1, cs =>
    match skipSpace cs with
    | '"' :: rest =>
      match readString rest with
      | none => ([], none)
      | some (key, rest) =>
        match skipSpace rest with
        | ':' :: rest =>
          match readValue level fuel rest with
          | (x, none) => ([(key, x)], none)
          | (x, some rest) =>
            match skipSpace rest with
            | '\x7d' :: rest => ([(key, x)], some rest)
            | ',' :: rest =>
              match readMembers level fuel rest with
              | (members, after) => ((key, x) :: members, after)
            | _ => ([(key, x)], none)
        | _ => ([(key, broken)], none)
    | _ => ([], none)

end

/-- A JSON text as written, and whether nothing but white space follows it. -/
def ofText (s : String) : Raw × Bool :=
  match readValue 0 (s.length + 1) s.toList with
  | (v, none) => (v, false)
  | (v, some rest) => (v, (skipSpace rest).isEmpty)

end Raw

end Json

end ContractCompiler
