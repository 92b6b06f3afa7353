import ContractCompiler.Yaml.BlockText
import ContractCompiler.Yaml.FlowText
import ContractCompiler.Yaml.Property

/-!
# The tokens of a text

`Token.stream` splits a text into tokens. Besides the place in the text, the state holds the columns
of the block collections that are open, and for each open bracket the last place where a key may
have begun: the colon that proves it a key inserts the key's tokens there.
-/

namespace ContractCompiler.Yaml

/-- A place where a key may have begun. -/
structure KeyStart where
  /-- How many tokens stand before it. -/
  tokens : Nat
  offset : Nat
  line : Nat
  column : Nat
  /-- Nothing but a key can stand there. -/
  required : Bool
deriving Repr

/-- The longest distance, in octets of UTF-8, between the beginning of a key and its colon. -/
def maxKeyDistance : Nat := 1024

/-- The state between two tokens. -/
structure Scan where
  cursor : Cursor
  tokens : Array Token
  /-- The column of the innermost block collection plus one, zero outside of all. -/
  level : Nat
  /-- The levels around it. -/
  outer : List Nat
  /-- A key may begin here. -/
  keyAllowed : Bool
  /-- Where a key may have begun, outside of brackets or in the innermost ones. -/
  keyStart : Option KeyStart
  /-- The same for the brackets around, one for each open bracket. -/
  brackets : List (Option KeyStart)

namespace Scan

/-- The state before a text. -/
def start (text : List Char) : Scan := ⟨.start text, #[], 0, [], true, none, []⟩

/-- The state is inside brackets. -/
def inFlow (s : Scan) : Bool := !s.brackets.isEmpty

/-- Adds a token and passes its characters. -/
def take (s : Scan) (t : Token) (length : Nat) : Scan :=
  { s with tokens := s.tokens.push t, cursor := s.cursor.advance length }

/-! ## Keys -/

/-- Gives up the place where a key may have begun; impossible where only a key can stand. -/
def dropKey (s : Scan) : Option Scan :=
  if s.keyStart.any KeyStart.required then none else some { s with keyStart := none }

/-- A key may begin here, if it is allowed to. -/
def saveKey (s : Scan) : Option Scan :=
  if s.keyAllowed then
    match s.dropKey with
    | none => none
    | some s =>
      let c := s.cursor
      some { s with
        keyStart :=
          some ⟨s.tokens.size, c.offset, c.line, c.column, !s.inFlow && s.level == c.column + 1⟩ }
  else some s

/-- The key has to end on its line, and soon. -/
def isStale (c : Cursor) (k : KeyStart) : Bool :=
  decide (k.line < c.line) || decide (k.offset + maxKeyDistance < c.offset)

/-- A place that is too far back is given up. -/
def refresh (c : Cursor) : Option KeyStart → Option (Option KeyStart)
  | none => some none
  | some k => if isStale c k then (if k.required then none else some none) else some (some k)

/-- Gives up the places that are too far back, in all brackets. -/
def dropStaleKeys (s : Scan) : Option Scan :=
  match refresh s.cursor s.keyStart, s.brackets.mapM (refresh s.cursor) with
  | some k, some ks => some { s with keyStart := k, brackets := ks }
  | _, _ => none

/-! ## Block collections -/

/-- Opens a block collection in a column, unless one is open there; its token stands at a place among
the tokens. -/
def openBlock (s : Scan) (column : Nat) (place : Nat) (t : Token) : Scan :=
  if !s.inFlow && decide (s.level < column + 1) then
    { s with
      level := column + 1
      outer := s.level :: s.outer
      tokens := s.tokens.insertIdxIfInBounds place t }
  else s

/-- Closes the block collections of levels above the given one. -/
def closeLevels (s : Scan) (level : Nat) : List Nat → Scan
  | [] => s
  | l :: outer =>
    if level < s.level then
      closeLevels { s with level := l, outer := outer, tokens := s.tokens.push .blockEnd } level outer
    else s

/-- Closes the block collections that end before a column. -/
def closeBlocks (s : Scan) (level : Nat) : Scan := if s.inFlow then s else s.closeLevels level s.outer

/-! ## Between tokens -/

/-- Passes a byte order mark at the beginning of a line. -/
def skipMark (c : Cursor) : Cursor :=
  if c.column == 0 && startsWithAny [byteOrderMark] c.rest then c.advance 1 else c

/-- Passes the white space of a line, tabs only where they may stand, and a comment. -/
def skipWithin (tabs : Bool) (c : Cursor) : Cursor :=
  ((skipMark c).skip fun x => x == ' ' || (tabs && x == '\t')).skipComment

theorem length_rest_skipWithin_le (tabs : Bool) (c : Cursor) :
    (skipWithin tabs c).rest.length ≤ c.rest.length := by
  have : (skipMark c).rest.length ≤ c.rest.length := by
    unfold skipMark
    split
    · exact c.length_rest_advance_le 1
    · exact Nat.le_refl _
  exact Nat.le_trans (Cursor.length_rest_skipComment_le _)
    (Nat.le_trans (Cursor.length_rest_skip_le ..) this)

/-- Passes white space and comments. Outside of brackets, a tab must not stand where a key may
begin, and a new line allows keys. -/
def skipBetween (s : Scan) : Scan :=
  let c := skipWithin (s.inFlow || !s.keyAllowed) s.cursor
  match _ : c.breakLine? with
  | some (_, d) => skipBetween { s with cursor := d, keyAllowed := s.keyAllowed || !s.inFlow }
  | none => { s with cursor := c }
termination_by s.cursor.rest.length
decreasing_by
  exact Nat.lt_of_lt_of_le (Cursor.length_rest_of_breakLine? ‹_›)
    (length_rest_skipWithin_le (s.inFlow || !s.keyAllowed) s.cursor)

/-! ## Single tokens -/

/-- A token between documents. -/
def boundary (s : Scan) (take : Scan → Option Scan) : Option Scan :=
  match (s.closeBlocks 0).dropKey with
  | none => none
  | some s => take { s with keyAllowed := false }

/-- A directive. -/
def directive (s : Scan) : Option Scan :=
  s.boundary fun s =>
    match readDirective (s.cursor.advance 1) with
    | none => none
    | some (t, c) => some { s with tokens := s.tokens.push t, cursor := c }

/-- An opening bracket. -/
def openFlow (s : Scan) (t : Token) : Option Scan :=
  match s.saveKey with
  | none => none
  | some s =>
    some { s.take t 1 with keyStart := none, brackets := s.keyStart :: s.brackets, keyAllowed := true }

/-- A closing bracket. -/
def closeFlow (s : Scan) (t : Token) : Option Scan :=
  match s.dropKey with
  | none => none
  | some s =>
    let s := { s.take t 1 with keyAllowed := false }
    match s.brackets with
    | [] => some s
    | k :: ks => some { s with keyStart := k, brackets := ks }

/-- A comma. -/
def comma (s : Scan) : Option Scan :=
  match s.dropKey with
  | none => none
  | some s => some { s.take .comma 1 with keyAllowed := true }

/-- The dash of an item. -/
def item (s : Scan) : Option Scan :=
  if !s.inFlow && !s.keyAllowed then none
  else
    match (s.openBlock s.cursor.column s.tokens.size .sequenceStart).dropKey with
    | none => none
    | some s => some { s.take .item 1 with keyAllowed := true }

/-- The question mark of a key. -/
def key (s : Scan) : Option Scan :=
  if !s.inFlow && !s.keyAllowed then none
  else
    match (s.openBlock s.cursor.column s.tokens.size .mappingStart).dropKey with
    | none => none
    | some s => some { s.take .key 1 with keyAllowed := !s.inFlow }

/-- The colon of a value. -/
def value (s : Scan) : Option Scan :=
  match s.keyStart with
  | some k =>
    let s := { s with tokens := s.tokens.insertIdxIfInBounds k.tokens .key }
    let s := s.openBlock k.column k.tokens .mappingStart
    some { s.take .value 1 with keyStart := none, keyAllowed := false }
  | none =>
    if !s.inFlow && !s.keyAllowed then none
    else
      let s := s.openBlock s.cursor.column s.tokens.size .mappingStart
      some { s.take .value 1 with keyAllowed := !s.inFlow }

/-- A token that may be the beginning of a key. -/
def keyed (s : Scan) (read : Cursor → Option (Token × Cursor)) : Option Scan :=
  match s.saveKey with
  | none => none
  | some s =>
    match read s.cursor with
    | none => none
    | some (t, c) => some { s with tokens := s.tokens.push t, cursor := c, keyAllowed := false }

/-- An alias or an anchor. -/
def named (s : Scan) (make : String → Token) : Option Scan :=
  s.keyed fun c => (readAnchor (c.advance 1)).map fun r => (make r.1, r.2)

/-- A quoted scalar. -/
def quoted (s : Scan) (single : Bool) : Option Scan :=
  s.keyed fun c =>
    (readQuoted single (c.advance 1) []).map fun r =>
      (.scalar .quoted (String.ofList r.1), r.2)

/-- A block scalar. -/
def block (s : Scan) (style : ScalarStyle) : Option Scan :=
  match s.dropKey with
  | none => none
  | some s =>
    match readBlock (style == .literal) s.level (s.cursor.advance 1) with
    | none => none
    | some (text, c) =>
      some { s with
        tokens := s.tokens.push (.scalar style (String.ofList text)), cursor := c, keyAllowed := true }

/-- A plain scalar; if the end of a line follows it, keys are allowed again. -/
def plain (s : Scan) : Option Scan :=
  match s.saveKey with
  | none => none
  | some s =>
    match readPlain s.inFlow s.level s.cursor [] .none with
    | none => none
    | some p =>
      some { s with
        tokens := s.tokens.push (.scalar .plain (String.ofList p.text))
        cursor := p.cursor
        keyAllowed := p.lineEnded }

/-- Characters that no plain scalar begins with. -/
def indicators : List Char :=
  ['-', '?', ':', ',', '[', ']', '\x7b', '\x7d', '#', '&', '*', '!', '|', '>', '\'', '"', '%', '@',
    '\x60']

/-- A plain scalar may begin here. -/
def startsPlain (inFlow : Bool) : List Char → Bool
  | [] => false
  | c :: rest =>
    (!startsBlank (c :: rest) && !indicators.contains c) || (c == '-' && !startsGap rest) ||
      (!inFlow && (c == '?' || c == ':') && !startsBlank rest)

/-- The token that begins here. -/
def one (s : Scan) : Option Scan :=
  match s.cursor.rest with
  | [] => some s
  | c :: rest =>
    if s.cursor.column == 0 && c == '%' then s.directive
    else if s.cursor.atMarker '-' then s.boundary fun s => some (s.take .documentStart 3)
    else if s.cursor.atMarker '.' then s.boundary fun s => some (s.take .documentEnd 3)
    else if c == '[' then s.openFlow .openBracket
    else if c == '\x7b' then s.openFlow .openBrace
    else if c == ']' then s.closeFlow .closeBracket
    else if c == '\x7d' then s.closeFlow .closeBrace
    else if c == ',' then s.comma
    else if c == '-' && startsBlank rest then s.item
    else if c == '?' && (s.inFlow || startsBlank rest) then s.key
    else if c == ':' && (s.inFlow || startsBlank rest) then s.value
    else if c == '*' then s.named .reference
    else if c == '&' then s.named .anchor
    else if c == '!' then
      s.keyed fun c => (readTag s.inFlow c).map fun r => (.tag r.1, r.2)
    else if c == '|' && !s.inFlow then s.block .literal
    else if c == '>' && !s.inFlow then s.block .folded
    else if c == '\'' then s.quoted true
    else if c == '"' then s.quoted false
    else if startsPlain s.inFlow (c :: rest) then s.plain
    else none

/-- Reads tokens to the end of the text. -/
def all : Nat → Scan → Option Scan
  | 0, _ => none
  | fuel + 1, s =>
    let s := s.skipBetween
    match s.dropStaleKeys with
    | none => none
    | some s =>
      if s.cursor.rest.isEmpty then
        ({ s with cursor := s.cursor.finish }.closeBlocks 0).dropKey
      else
        match (s.closeBlocks (s.cursor.column + 1)).one with
        | none => none
        | some s => all fuel s

end Scan

/-- The tokens of a text; none when the text cannot be split into tokens. -/
def Token.stream (text : List Char) : Option (List Token) :=
  if text.all isAllowed then ((Scan.start text).all (text.length + 1)).map fun s => s.tokens.toList
  else none

end ContractCompiler.Yaml
