import ContractCompiler.Yaml.Cursor

/-!
# Block scalars

A block scalar states in its first line whether its lines are kept or folded, how its last ends of
lines are treated, and, on request, how far it is indented. Its lines follow, down to the first
line that is indented less.
-/

namespace ContractCompiler.Yaml

/-- What becomes of the ends of lines at the end of a block scalar. -/
inductive Chomping where
  | strip
  /-- One is kept. -/
  | clip
  | keep
deriving DecidableEq, Repr

/-- The first line of a block scalar. -/
structure BlockHeader where
  chomping : Chomping
  /-- How much further than its parent the scalar is indented, where that is stated. -/
  increment? : Option Nat
deriving DecidableEq, Repr

/-- The chomping mark at the front of a text. -/
def readChomping : List Char → Option Chomping
  | '+' :: _ => some .keep
  | '-' :: _ => some .strip
  | _ => none

/-- The indentation digit at the front of a text. -/
def readIncrement : List Char → Option Nat
  | [] => none
  | c :: _ => if c.isDigit then some (c.toNat - 48) else none

/-- The marks after the style of a block scalar, in either order. -/
def readBlockHeader (c : Cursor) : BlockHeader × Cursor :=
  match readChomping c.rest with
  | some chomping =>
    let c := c.advance 1
    match readIncrement c.rest with
    | some n => (⟨chomping, some n⟩, c.advance 1)
    | none => (⟨chomping, none⟩, c)
  | none =>
    match readIncrement c.rest with
    | some n =>
      let c := c.advance 1
      match readChomping c.rest with
      | some chomping => (⟨chomping, some n⟩, c.advance 1)
      | none => (⟨.clip, some n⟩, c)
    | none => (⟨.clip, none⟩, c)

/-- Blank lines before some text. -/
structure BlankLines where
  /-- What the ends of the lines read as, last one first. -/
  breaks : List Char
  /-- The furthest column reached by indentation. -/
  furthest : Nat
  cursor : Cursor

/-- The column has not reached the indentation; it never does while that is unknown. -/
def isBefore (indent? : Option Nat) (column : Nat) : Bool :=
  match indent? with
  | some indent => decide (column < indent)
  | none => true

/-- Passes the indentation of a line. -/
def skipIndentation (indent? : Option Nat) (c : Cursor) : Cursor :=
  let spaces := (c.rest.takeWhile (· == ' ')).length
  match indent? with
  | some indent => c.advance (min spaces (indent - c.column))
  | none => c.advance spaces

theorem length_rest_skipIndentation_le (indent? : Option Nat) (c : Cursor) :
    (skipIndentation indent? c).rest.length ≤ c.rest.length := by
  unfold skipIndentation
  split <;> exact c.length_rest_advance_le _

/-- Passes blank lines and the indentation of the line after them. A tab must not stand in the
indentation. -/
def readBlankLines (indent? : Option Nat) (b : BlankLines) : Option BlankLines :=
  let c := skipIndentation indent? b.cursor
  let furthest := max b.furthest c.column
  if isBefore indent? c.column && startsWithAny ['\t'] c.rest then none
  else
    match _ : c.breakLine? with
    | none => some ⟨b.breaks, furthest, c⟩
    | some (x, d) => readBlankLines indent? ⟨x :: b.breaks, furthest, d⟩
termination_by b.cursor.rest.length
decreasing_by
  exact Nat.lt_of_lt_of_le (Cursor.length_rest_of_breakLine? ‹_›)
    (length_rest_skipIndentation_le indent? b.cursor)

theorem length_rest_readBlankLines_le {indent? : Option Nat} {b d : BlankLines}
    (h : readBlankLines indent? b = some d) : d.cursor.rest.length ≤ b.cursor.rest.length := by
  fun_induction readBlankLines indent? b with
  | case1 => cases h
  | case2 b => cases h; exact length_rest_skipIndentation_le indent? b.cursor
  | case3 b c furthest _ x e he ih =>
    exact Nat.le_trans (ih h) (Nat.le_trans (Nat.le_of_lt (Cursor.length_rest_of_breakLine? he))
      (length_rest_skipIndentation_le indent? b.cursor))

/-- A block scalar while it is read: its text, last character first, and the ends of lines after
it. -/
structure BlockLines where
  text : List Char
  /-- What the end of the last line reads as. -/
  lastBreak : Option Char
  /-- The last line begins with white space. -/
  wasIndented : Bool
  /-- What the ends of the blank lines read as, last one first. -/
  breaks : List Char
  cursor : Cursor

/-- The ends of lines between two lines of a scalar, last one first. In a folded scalar a single
one between lines that begin with text becomes a space, and of several the first is dropped. -/
def BlockLines.joint (isLiteral : Bool) (b : BlockLines) : List Char :=
  if !isLiteral && b.lastBreak == some '\n' && !b.wasIndented && !startsGap b.cursor.rest then
    if b.breaks.isEmpty then [' '] else b.breaks
  else b.breaks ++ b.lastBreak.toList

/-- Passes a line and its end: the line, what its end reads as, and what is left. -/
def readLine (c : Cursor) : List Char × Option Char × Cursor :=
  let line := c.rest.takeWhile fun x => !isBreak x
  let d := c.advance line.length
  match d.breakLine? with
  | some (x, e) => (line, some x, e)
  | none => (line, none, d)

theorem length_rest_readLine_lt {c : Cursor} (h : c.rest ≠ []) :
    (readLine c).2.2.rest.length < c.rest.length := by
  simp only [readLine]
  split
  · rename_i he
    exact Nat.lt_of_lt_of_le (Cursor.length_rest_of_breakLine? he) (c.length_rest_advance_le _)
  · rename_i he
    obtain ⟨x, rest, hr⟩ := List.exists_cons_of_ne_nil h
    by_cases hx : isBreak x
    · have hs : startsBreak (c.advance 0).rest = true := by simpa [Cursor.advance, hr, startsBreak]
      have := Cursor.breakLine?_isSome_of_startsBreak hs
      simp_all
    · simpa [hr, hx] using Cursor.length_rest_advance_succ_lt hr _

/-- Reads the lines of a scalar that is indented to a column. -/
def readBlockLines (isLiteral : Bool) (indent : Nat) (b : BlockLines) : Option BlockLines :=
  if _ : b.cursor.column != indent || b.cursor.rest.isEmpty then some b
  else
    match _ : readLine b.cursor with
    | (line, lastBreak, c) =>
      match _ : readBlankLines (some indent) ⟨[], 0, c⟩ with
      | none => none
      | some blank =>
        readBlockLines isLiteral indent
          ⟨line.reverse ++ (b.joint isLiteral ++ b.text), lastBreak, startsGap b.cursor.rest,
            blank.breaks, blank.cursor⟩
termination_by b.cursor.rest.length
decreasing_by
  have hl : readLine b.cursor = (line, lastBreak, c) := ‹_›
  have hb := length_rest_readBlankLines_le ‹readBlankLines (some indent) ⟨[], 0, c⟩ = some blank›
  have hc := length_rest_readLine_lt (c := b.cursor) (by simp_all)
  rw [hl] at hc
  exact Nat.lt_of_le_of_lt hb hc

/-- The text of a block scalar, its last ends of lines chomped. -/
def BlockLines.chomped (b : BlockLines) : Chomping → List Char
  | .strip => b.text.reverse
  | .clip => b.text.reverse ++ b.lastBreak.toList
  | .keep => b.text.reverse ++ b.lastBreak.toList ++ b.breaks.reverse

/-- The column of a block scalar in a collection at column `parent - 1`: as stated, else that of its
first line. -/
def blockColumn (parent : Nat) (furthest : Nat) : Nat := max (max furthest parent) 1

/-- Reads a block scalar after its style mark, in a collection at column `parent - 1`. -/
def readBlock (isLiteral : Bool) (parent : Nat) (c : Cursor) : Option (List Char × Cursor) :=
  let header := readBlockHeader c
  let c := header.2.skipGaps.skipComment
  if header.1.increment? == some 0 || !(c.rest.isEmpty || startsBreak c.rest) then none
  else
    let c := c.skipBreak
    let stated := header.1.increment?.map fun n => parent - 1 + n
    match readBlankLines stated ⟨[], 0, c⟩ with
    | none => none
    | some blank =>
      let indent := stated.getD (blockColumn parent blank.furthest)
      match readBlockLines isLiteral indent ⟨[], none, false, blank.breaks, blank.cursor⟩ with
      | none => none
      | some b => some (b.chomped header.1.chomping, b.cursor)

end ContractCompiler.Yaml
