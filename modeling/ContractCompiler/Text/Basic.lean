/-!
# White space, lines and identifiers

Code is shaped as a list of characters. `trim` removes white space from both ends, `normalized`
(`normalize_whitespace`) gives generated code its final shape, and `isIdentifier` (`is_identifier`)
says which names can stand in generated code as they are.
-/

namespace ContractCompiler.Text

/-! ## White space

`isBlank` is the Unicode property White_Space.
-/

/-- Closed ranges of the property White_Space: 25 code points. -/
def blankRanges : List (Nat × Nat) :=
  [(0x09, 0x0D), (0x20, 0x20), (0x85, 0x85), (0xA0, 0xA0), (0x1680, 0x1680), (0x2000, 0x200A),
   (0x2028, 0x2029), (0x202F, 0x202F), (0x205F, 0x205F), (0x3000, 0x3000)]

/-- The character has the property White_Space. -/
def isBlank (c : Char) : Bool :=
  blankRanges.any fun r => decide (r.1 ≤ c.toNat) && decide (c.toNat ≤ r.2)

def trimStart (cs : List Char) : List Char := cs.dropWhile isBlank

def trimEnd (cs : List Char) : List Char := (cs.reverse.dropWhile isBlank).reverse

def trim (cs : List Char) : List Char := trimEnd (trimStart cs)

def trimmed (s : String) : String := String.ofList (trim s.toList)

/-- The text is empty or holds white space only. -/
def isBlankText (s : String) : Bool := s.toList.all isBlank

theorem isBlank_space : isBlank ' ' = true := by decide

theorem isBlank_newline : isBlank '\n' = true := by decide

theorem isBlank_tab : isBlank '\t' = true := by decide

/-! ## Blank lines

Every run of blank lines becomes one empty line, white space at both ends goes, and one newline ends
the text. A line is blank here when it holds spaces and tabs only.
-/

/-- Spaces and tabs. -/
def isPadding (c : Char) : Bool := c == ' ' || c == '\t'

/-- The pieces between newlines; joined by newlines they give the text back. -/
def splitLines : List Char → List (List Char)
  | [] => [[]]
  | c :: rest =>
    if c = '\n' then [] :: splitLines rest
    else
      match splitLines rest with
      | [] => [[c]]
      | line :: lines => (c :: line) :: lines

/-- The lines with a newline between neighbours. -/
def joinLines : List (List Char) → List Char
  | [] => []
  | [line] => line
  | line :: next :: lines => line ++ '\n' :: joinLines (next :: lines)

def isPaddingLine (line : List Char) : Bool := line.all isPadding

/-- The blank lines read since the last line with text. -/
inductive BlankRun where
  | empty
  | single (line : List Char)
  | several

/-- The run with one more blank line. -/
def BlankRun.add : BlankRun → List Char → BlankRun
  | .empty, line => .single line
  | .single _, _ => .several
  | .several, _ => .several

/-- A single blank line stays as it is; two or more become one empty line. -/
def BlankRun.lines : BlankRun → List (List Char)
  | .empty => []
  | .single line => [line]
  | .several => [[]]

/-- Collapses the runs of blank lines among lines that follow a newline. The last line, which no
newline ends, belongs to no run. -/
def collapse (run : BlankRun) : List (List Char) → List (List Char)
  | [] => run.lines
  | [last] => run.lines ++ [last]
  | line :: next :: lines =>
    if isPaddingLine line then collapse (run.add line) (next :: lines)
    else run.lines ++ line :: collapse .empty (next :: lines)

/-- Collapses the runs of blank lines of a text. The first line, which no newline precedes, belongs
to no run. -/
def collapseBlankLines : List (List Char) → List (List Char)
  | [] => []
  | first :: lines => first :: collapse .empty lines

/-- The code with runs of blank lines collapsed, trimmed, and ended by one newline
(`normalize_whitespace`). -/
def normalized (code : String) : String :=
  String.ofList (trim (joinLines (collapseBlankLines (splitLines code.toList))) ++ ['\n'])

/-! ## Identifiers

An ASCII letter, `_` or `$`, followed by ASCII letters, digits, `_` or `$`.
-/

/-- Characters that may start an identifier. -/
def startsIdentifier (c : Char) : Bool := c.isAlpha || c == '_' || c == '$'

/-- Characters that may continue an identifier. -/
def continuesIdentifier (c : Char) : Bool := startsIdentifier c || c.isDigit

/-- The characters form an identifier. -/
def formsIdentifier : List Char → Bool
  | [] => false
  | c :: rest => startsIdentifier c && rest.all continuesIdentifier

/-- The text is an identifier (`is_identifier`). -/
def isIdentifier (s : String) : Bool := formsIdentifier s.toList

end ContractCompiler.Text
