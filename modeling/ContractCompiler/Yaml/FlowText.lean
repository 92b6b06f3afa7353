import ContractCompiler.Yaml.Cursor

/-!
# Scalars within lines

Plain and quoted scalars. Where such a scalar goes over several lines, white space around the ends
of lines is dropped, a single end of line becomes a space, and of several the first is dropped.
-/

namespace ContractCompiler.Yaml

/-- White space after some text: either gaps within a line, or ends of lines. -/
structure Pause where
  /-- A line has ended. -/
  broken : Bool
  /-- Spaces and tabs before the first end of line, last one first. -/
  gaps : List Char
  /-- What the first end of line reads as. -/
  first : Option Char
  /-- What the other ends of lines read as, last one first. -/
  others : List Char

namespace Pause

/-- No white space. -/
def none : Pause := ⟨false, [], .none, []⟩

/-- The pause after an escaped end of line, which itself leaves nothing. -/
def escapedBreak : Pause := ⟨true, [], .none, []⟩

/-- The pause with one more space or tab; those after an end of line are dropped. -/
def addGap (p : Pause) (c : Char) : Pause := if p.broken then p else { p with gaps := c :: p.gaps }

/-- The pause with one more end of line. -/
def addBreak (p : Pause) (c : Char) : Pause :=
  if p.broken then { p with others := c :: p.others } else ⟨true, [], some c, []⟩

/-- What is left of a pause between two words. -/
def folded (p : Pause) : List Char :=
  if p.broken then
    match p.first with
    | some '\n' => if p.others.isEmpty then [' '] else p.others.reverse
    | some c => c :: p.others.reverse
    | .none => p.others.reverse
  else p.gaps.reverse

end Pause

/-- Reads white space. `limit` is the least column for a tab at the start of a line. -/
def readPause (limit : Nat) (c : Cursor) (p : Pause) : Option (Pause × Cursor) :=
  match _ : c.rest with
  | [] => some (p, c)
  | x :: _ =>
    if isGap x then
      if p.broken && decide (c.column < limit) && x == '\t' then none
      else readPause limit (c.advance 1) (p.addGap x)
    else
      match _ : c.breakLine? with
      | some (b, d) => readPause limit d (p.addBreak b)
      | none => some (p, c)
termination_by c.rest.length
decreasing_by
  · exact Cursor.length_rest_advance_succ_lt ‹_› 0
  · exact Cursor.length_rest_of_breakLine? ‹_›

theorem length_rest_readPause_le {limit : Nat} {c d : Cursor} {p q : Pause}
    (h : readPause limit c p = some (q, d)) : d.rest.length ≤ c.rest.length := by
  fun_induction readPause limit c p with
  | case1 c p => cases h; exact Nat.le_refl _
  | case2 => cases h
  | case3 c p x rest hc _ _ ih =>
    exact Nat.le_trans (ih h) (c.length_rest_advance_le 1)
  | case4 c p x rest hc _ b e hb ih =>
    exact Nat.le_trans (ih h) (Nat.le_of_lt (Cursor.length_rest_of_breakLine? hb))
  | case5 c p => cases h; exact Nat.le_refl _

/-- White space that is there is passed. -/
theorem length_rest_readPause_lt {limit : Nat} {c d : Cursor} {p q : Pause}
    (hc : (startsGap c.rest || startsBreak c.rest) = true)
    (h : readPause limit c p = some (q, d)) : d.rest.length < c.rest.length := by
  revert h
  fun_cases readPause limit c p with
  | case1 hr => simp [hr, startsGap, startsBreak] at hc
  | case2 => rintro ⟨⟩
  | case3 x rest hr =>
    exact fun h => Nat.lt_of_le_of_lt (length_rest_readPause_le h)
      (Cursor.length_rest_advance_succ_lt hr 0)
  | case4 x rest hr hx b e hb =>
    exact fun h =>
      Nat.lt_of_le_of_lt (length_rest_readPause_le h) (Cursor.length_rest_of_breakLine? hb)
  | case5 x rest hr hx hb =>
    have hs : startsBreak c.rest = true := by simpa [hr, startsGap, hx] using hc
    simpa [hb] using Cursor.breakLine?_isSome_of_startsBreak hs

/-! ## Plain scalars -/

/-- The characters that end a plain scalar inside brackets. -/
def flowIndicators : List Char := [',', '[', ']', '\x7b', '\x7d']

/-- A word of a plain scalar, last character first. Inside brackets, a colon must not stand right
before a bracket, a comma or a question mark. -/
def readWord (inFlow : Bool) (word : List Char) : List Char → Option (List Char)
  | [] => some word
  | c :: rest =>
    if startsBlank (c :: rest) then some word
    else if inFlow && c == ':' && startsWithAny ('?' :: flowIndicators) rest then none
    else if (c == ':' && startsBlank rest) || (inFlow && flowIndicators.contains c) then some word
    else readWord inFlow (c :: word) rest

/-- A plain scalar. -/
structure PlainText where
  text : List Char
  /-- The scalar is followed by the end of a line. -/
  lineEnded : Bool
  cursor : Cursor

/-- Reads a plain scalar in a collection at column `indent - 1`. `text` is what was read so far, last
character first, and `pause` the white space after it. -/
def readPlain (inFlow : Bool) (indent : Nat) (c : Cursor) (text : List Char) (pause : Pause) :
    Option PlainText :=
  if c.atDocumentMarker || startsWithAny ['#'] c.rest then some ⟨text.reverse, pause.broken, c⟩
  else
    match readWord inFlow [] c.rest with
    | none => none
    | some word =>
      let text := if word.isEmpty then text else word ++ pause.folded.reverse ++ text
      let pause := if word.isEmpty then pause else .none
      let d := c.advance word.length
      if _ : startsGap d.rest || startsBreak d.rest then
        match _ : readPause indent d pause with
        | none => none
        | some (pause, e) =>
          if !inFlow && decide (e.column < indent) then some ⟨text.reverse, pause.broken, e⟩
          else readPlain inFlow indent e text pause
      else some ⟨text.reverse, pause.broken, d⟩
termination_by c.rest.length
decreasing_by
  exact Nat.lt_of_lt_of_le (length_rest_readPause_lt ‹_› ‹_›) (c.length_rest_advance_le _)

/-! ## Quoted scalars -/

def hexValue? (c : Char) : Option Nat :=
  if c.isDigit then some (c.toNat - 48)
  else if 'a' ≤ c ∧ c ≤ 'f' then some (c.toNat - 87)
  else if 'A' ≤ c ∧ c ≤ 'F' then some (c.toNat - 55)
  else none

/-- The number that hexadecimal digits write. -/
def hexNumber? (digits : List Char) : Option Nat :=
  digits.foldl
    (fun n c => match n, hexValue? c with
      | some n, some d => some (n * 16 + d)
      | _, _ => none)
    (some 0)

/-- The character of a code point, which must not be half of a surrogate pair. -/
def scalarChar? (n : Nat) : Option Char :=
  if (0xD800 ≤ n ∧ n ≤ 0xDFFF) ∨ 0x10FFFF < n then none else some (Char.ofNat n)

/-- The character that a one-letter escape stands for. -/
def escapedChar? (c : Char) : Option Char :=
  match c with
  | '0' => some (Char.ofNat 0x00)
  | 'a' => some (Char.ofNat 0x07)
  | 'b' => some (Char.ofNat 0x08)
  | 't' => some '\t'
  | '\t' => some '\t'
  | 'n' => some '\n'
  | 'v' => some (Char.ofNat 0x0B)
  | 'f' => some (Char.ofNat 0x0C)
  | 'r' => some '\r'
  | 'e' => some (Char.ofNat 0x1B)
  | ' ' => some ' '
  | '"' => some '"'
  | '/' => some '/'
  | '\\' => some '\\'
  | 'N' => some (Char.ofNat 0x85)
  | '_' => some (Char.ofNat 0xA0)
  | 'L' => some (Char.ofNat 0x2028)
  | 'P' => some (Char.ofNat 0x2029)
  | _ => none

/-- How many digits follow the letter of a numeric escape. -/
def escapeWidth? (c : Char) : Option Nat :=
  if c = 'x' then some 2 else if c = 'u' then some 4 else if c = 'U' then some 8 else none

/-- An escape after its backslash: the character, and how long the escape is. -/
def readEscape : List Char → Option (Char × Nat)
  | [] => none
  | c :: rest =>
    match escapedChar? c with
    | some x => some (x, 1)
    | none =>
      match escapeWidth? c with
      | none => none
      | some width =>
        if rest.length < width then none
        else
          match (hexNumber? (rest.take width)).bind scalarChar? with
          | some x => some (x, width + 1)
          | none => none

/-- How a word of a quoted scalar ends. -/
inductive WordEnd where
  | blank
  | quote
  /-- By a backslash at the end of a line. -/
  | escapedBreak

/-- The pause that begins at the end of a word; none after the last word. -/
def WordEnd.pause? : WordEnd → Option Pause
  | .blank => some .none
  | .quote => none
  | .escapedBreak => some .escapedBreak

/-- A word between quotes: its characters, last one first, and where it ends. -/
def readQuotedWord (single : Bool) (c : Cursor) (word : List Char) :
    Option (List Char × WordEnd × Cursor) :=
  match _ : c.rest with
  | [] => some (word, .blank, c)
  | x :: rest =>
    if isGap x || isBreak x then some (word, .blank, c)
    else if single && x == '\'' then
      if startsWithAny ['\''] rest then readQuotedWord single (c.advance 2) ('\'' :: word)
      else some (word, .quote, c)
    else if !single && x == '"' then some (word, .quote, c)
    else if !single && x == '\\' then
      if startsBreak rest then some (word, .escapedBreak, (c.advance 1).skipBreak)
      else
        match readEscape rest with
        | none => none
        | some (e, n) => readQuotedWord single (c.advance (n + 1)) (e :: word)
    else readQuotedWord single (c.advance 1) (x :: word)
termination_by c.rest.length
decreasing_by all_goals exact Cursor.length_rest_advance_succ_lt ‹_› _

theorem length_rest_readQuotedWord_le {single : Bool} {c d : Cursor} {word w : List Char}
    {ending : WordEnd} (h : readQuotedWord single c word = some (w, ending, d)) :
    d.rest.length ≤ c.rest.length := by
  fun_induction readQuotedWord single c word with
  | case1 => cases h; exact Nat.le_refl _
  | case2 => cases h; exact Nat.le_refl _
  | case3 c _ _ _ _ _ _ _ ih => exact Nat.le_trans (ih h) (c.length_rest_advance_le _)
  | case4 => cases h; exact Nat.le_refl _
  | case5 => cases h; exact Nat.le_refl _
  | case6 c =>
    cases h
    exact Nat.le_trans (Cursor.length_rest_skipBreak_le _) (c.length_rest_advance_le 1)
  | case7 => cases h
  | case8 c _ _ _ _ _ _ _ _ _ _ _ _ ih => exact Nat.le_trans (ih h) (c.length_rest_advance_le _)
  | case9 c _ _ _ _ _ _ _ _ ih => exact Nat.le_trans (ih h) (c.length_rest_advance_le _)

/-- Before the last word, a word or the white space after it has some length. -/
theorem length_rest_readQuotedWord_lt {single : Bool} {c d : Cursor} {word w : List Char}
    {ending : WordEnd} (hc : c.rest ≠ []) (he : ending.pause?.isSome = true)
    (h : readQuotedWord single c word = some (w, ending, d)) :
    d.rest.length < c.rest.length ∨ (startsGap d.rest || startsBreak d.rest) = true := by
  obtain ⟨x, rest, hx⟩ := List.exists_cons_of_ne_nil hc
  have after : ∀ {u : List Char} (n : Nat),
      readQuotedWord single (c.advance (n + 1)) u = some (w, ending, d) →
        d.rest.length < c.rest.length := fun n h =>
    Nat.lt_of_le_of_lt (length_rest_readQuotedWord_le h) (Cursor.length_rest_advance_succ_lt hx n)
  revert h
  fun_cases readQuotedWord single c word with
  | case1 => contradiction
  | case2 x rest hr hx =>
    rintro ⟨⟩
    exact .inr (by simpa [hr, startsGap, startsBreak] using hx)
  | case3 => exact fun h => .inl (after 1 h)
  | case4 => rintro ⟨⟩; cases he
  | case5 => rintro ⟨⟩; cases he
  | case6 =>
    rintro ⟨⟩
    exact .inl (Nat.lt_of_le_of_lt (Cursor.length_rest_skipBreak_le _)
      (Cursor.length_rest_advance_succ_lt hx 0))
  | case7 => rintro ⟨⟩
  | case8 => exact fun h => .inl (after _ h)
  | case9 => exact fun h => .inl (after 0 h)

/-- Reads a quoted scalar after its opening quote. `text` is what was read so far, last character
first. -/
def readQuoted (single : Bool) (c : Cursor) (text : List Char) : Option (List Char × Cursor) :=
  if _ : c.atDocumentMarker || c.rest.isEmpty then none
  else
    match _ : readQuotedWord single c [] with
    | none => none
    | some (word, ending, d) =>
      match _ : ending.pause? with
      | none => some ((word ++ text).reverse, d.advance 1)
      | some pause =>
        match _ : readPause 0 d pause with
        | none => none
        | some (passed, e) => readQuoted single e (passed.folded.reverse ++ (word ++ text))
termination_by c.rest.length
decreasing_by
  have hw : readQuotedWord single c [] = some (word, ending, d) := ‹_›
  have hp : readPause 0 d pause = some (passed, e) := ‹_›
  rcases length_rest_readQuotedWord_lt (by simp_all) (by simp [*]) hw with h | h
  · exact Nat.lt_of_le_of_lt (length_rest_readPause_le hp) h
  · exact Nat.lt_of_lt_of_le (length_rest_readPause_lt h hp) (length_rest_readQuotedWord_le hw)

end ContractCompiler.Yaml
