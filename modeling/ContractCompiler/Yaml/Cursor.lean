/-!
# Characters and positions of YAML

Which characters a YAML text may hold, and what is left of a text while it is read. Two characters
that end one line together count as one end of line.
-/

namespace ContractCompiler.Yaml

/-! ## Characters

Which of them end a line or part words, and which can be written as they are.
-/

/-- The character lies between two code points. -/
def between (low high : Nat) (c : Char) : Bool := decide (low ≤ c.toNat) && decide (c.toNat ≤ high)

def byteOrderMark : Char := Char.ofNat 0xFEFF

/-- The character may stand in a YAML text. -/
def isAllowed (c : Char) : Bool :=
  c == '\t' || c == '\n' || c == '\r' || between 0x20 0x7E c || c.toNat == 0x85 ||
    between 0xA0 0xD7FF c || between 0xE000 0xFFFD c || between 0x10000 0x10FFFF c

/-- The character can be written without an escape. -/
def isPrintable (c : Char) : Bool :=
  c == '\n' || between 0x20 0x7E c || between 0xA0 0xD7FF c ||
    (between 0xE000 0xFFFD c && c != byteOrderMark) || between 0x10000 0x10FFFF c

/-- The character ends a line. -/
def isBreak (c : Char) : Bool :=
  c == '\n' || c == '\r' || c.toNat == 0x85 || c.toNat == 0x2028 || c.toNat == 0x2029

/-- Spaces and tabs. -/
def isGap (c : Char) : Bool := c == ' ' || c == '\t'

/-- The characters of anchors and handles. -/
def isWord (c : Char) : Bool := c.isAlphanum || c == '_' || c == '-'

/-- The text begins with white space, or is at its end. -/
def startsBlank : List Char → Bool
  | [] => true
  | c :: _ => isGap c || isBreak c

/-- The text begins with a space or a tab. -/
def startsGap : List Char → Bool
  | [] => false
  | c :: _ => isGap c

/-- The text begins with the end of a line. -/
def startsBreak : List Char → Bool
  | [] => false
  | c :: _ => isBreak c

/-- The text begins with one of the characters. -/
def startsWithAny (these : List Char) : List Char → Bool
  | [] => false
  | c :: _ => these.contains c

/-! ## Positions

A `Cursor` is what is left of a text, and where in the text that is.
-/

/-- What is left of a text, in a line and column. -/
structure Cursor where
  rest : List Char
  /-- How many octets of UTF-8 stand before it. -/
  offset : Nat
  line : Nat
  column : Nat
deriving Repr

namespace Cursor

/-- The beginning of a text. -/
def start (text : List Char) : Cursor := ⟨text, 0, 0, 0⟩

/-- How many octets of UTF-8 the first `n` characters take. -/
def octetsOf : Nat → List Char → Nat
  | 0, _ => 0
  | _ + 1, [] => 0
  | n + 1, x :: rest => x.utf8Size + octetsOf n rest

/-- Passes `n` characters of a line. -/
def advance (c : Cursor) (n : Nat) : Cursor :=
  ⟨c.rest.drop n, c.offset + octetsOf n c.rest, c.line, c.column + n⟩

/-- Passes the characters of a line that satisfy `p`. -/
def skip (p : Char → Bool) (c : Cursor) : Cursor := c.advance (c.rest.takeWhile p).length

def skipGaps (c : Cursor) : Cursor := c.skip isGap

def skipLine (c : Cursor) : Cursor := c.skip fun x => !isBreak x

/-- Passes a comment, if there is one. -/
def skipComment (c : Cursor) : Cursor :=
  match c.rest with
  | '#' :: _ => c.skipLine
  | _ => c

/-- Passes the end of a line; the character that it reads as. -/
def breakLine? (c : Cursor) : Option (Char × Cursor) :=
  match c.rest with
  | '\r' :: '\n' :: rest => some ('\n', ⟨rest, c.offset + 2, c.line + 1, 0⟩)
  | x :: rest =>
    if isBreak x then
      some (if x.toNat == 0x2028 || x.toNat == 0x2029 then x else '\n',
        ⟨rest, c.offset + x.utf8Size, c.line + 1, 0⟩)
    else none
  | [] => none

/-- Passes the end of a line, if there is one. -/
def skipBreak (c : Cursor) : Cursor :=
  match c.breakLine? with
  | some (_, c) => c
  | none => c

/-! ## What is left

Every step leaves no more of the text than there was, and passing the end of a line leaves less. -/

theorem length_rest_advance (c : Cursor) (n : Nat) :
    (c.advance n).rest.length = c.rest.length - n := List.length_drop

theorem length_rest_advance_le (c : Cursor) (n : Nat) :
    (c.advance n).rest.length ≤ c.rest.length := by
  rw [length_rest_advance]
  exact Nat.sub_le ..

theorem length_rest_advance_succ_lt {c : Cursor} {x : Char} {rest : List Char}
    (h : c.rest = x :: rest) (n : Nat) : (c.advance (n + 1)).rest.length < c.rest.length := by
  rw [length_rest_advance, h, List.length_cons]
  omega

theorem length_rest_skip_le (p : Char → Bool) (c : Cursor) :
    (c.skip p).rest.length ≤ c.rest.length := c.length_rest_advance_le _

theorem length_rest_skipComment_le (c : Cursor) : c.skipComment.rest.length ≤ c.rest.length := by
  unfold skipComment
  split
  · exact c.length_rest_skip_le _
  · exact Nat.le_refl _

theorem length_rest_of_breakLine? {c d : Cursor} {x : Char} (h : c.breakLine? = some (x, d)) :
    d.rest.length < c.rest.length := by
  unfold breakLine? at h
  split at h
  · rename_i rest hr
    obtain ⟨_, rfl⟩ := Prod.mk.inj (Option.some.inj h)
    simp only [hr, List.length_cons]
    omega
  · rename_i y rest _ hr
    split at h
    · obtain ⟨_, rfl⟩ := Prod.mk.inj (Option.some.inj h)
      simp [hr]
    · cases h
  · cases h

theorem breakLine?_isSome_of_startsBreak {c : Cursor} (h : startsBreak c.rest = true) :
    c.breakLine?.isSome = true := by
  unfold breakLine?
  split
  · rfl
  · rename_i y rest _ hr
    rw [hr] at h
    simp only [startsBreak] at h
    simp [h]
  · rename_i hr
    rw [hr] at h
    cases h

theorem length_rest_skipBreak_le (c : Cursor) : c.skipBreak.rest.length ≤ c.rest.length := by
  unfold skipBreak
  split
  · rename_i h
    exact Nat.le_of_lt (length_rest_of_breakLine? h)
  · exact Nat.le_refl _

/-! ## Special places -/

/-- The end of the text, on a line of its own. -/
def finish (c : Cursor) : Cursor :=
  if c.column = 0 then c else ⟨c.rest, c.offset, c.line + 1, 0⟩

/-- A line begins with the three characters and white space. -/
def atMarker (c : Cursor) (mark : Char) : Bool :=
  c.column == 0 && [mark, mark, mark].isPrefixOf c.rest && startsBlank (c.rest.drop 3)

/-- A line begins with a document marker. -/
def atDocumentMarker (c : Cursor) : Bool := c.atMarker '-' || c.atMarker '.'

end Cursor

end ContractCompiler.Yaml
