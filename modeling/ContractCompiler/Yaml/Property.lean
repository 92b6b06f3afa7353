import ContractCompiler.Yaml.Cursor
import ContractCompiler.Yaml.FlowText
import ContractCompiler.Yaml.Token

/-!
# Reading tags, anchors and directives

What stands before a node, and what stands before a document. Tags may hold percent escapes, each
of which writes the octets of one character.
-/

namespace ContractCompiler.Yaml

/-! ## Tags -/

/-- The characters of tags. -/
def tagChars : List Char :=
  [';', '/', '?', ':', '@', '&', '=', '+', '$', '.', '%', '!', '~', '*', '\'', '(', ')']

/-- The character may stand in a tag; some only between angle brackets. -/
def isTagChar (verbatim : Bool) (c : Char) : Bool :=
  isWord c || tagChars.contains c || (verbatim && [',', '[', ']'].contains c)

/-- An octet written as a percent sign and two hexadecimal digits. -/
def readOctet : List Char → Option (UInt8 × List Char)
  | '%' :: a :: b :: rest =>
    match hexValue? a, hexValue? b with
    | some a, some b => some (UInt8.ofNat (a * 16 + b), rest)
    | _, _ => none
  | _ => none

/-- How many octets follow the first one of a character. -/
def followers? (octet : UInt8) : Option Nat :=
  if octet < 0x80 then some 0
  else if octet < 0xC0 then none
  else if octet < 0xE0 then some 1
  else if octet < 0xF0 then some 2
  else if octet < 0xF8 then some 3
  else none

/-- The octet continues a character. -/
def isFollower (octet : UInt8) : Bool := decide (0x80 ≤ octet) && decide (octet < 0xC0)

/-- Reads the octets that continue a character. -/
def readFollowers : Nat → List Char → Option (List UInt8 × List Char)
  | 0, cs => some ([], cs)
  | n + 1, cs =>
    match readOctet cs with
    | none => none
    | some (octet, rest) =>
      if isFollower octet then (readFollowers n rest).map fun r => (octet :: r.1, r.2) else none

/-- A character written as percent escapes. Only the number of its octets and the marks of those
that continue it have to be right. -/
def readEscapedOctets (cs : List Char) : Option (List UInt8 × List Char) :=
  match readOctet cs with
  | none => none
  | some (first, rest) =>
    match followers? first with
    | none => none
    | some n => (readFollowers n rest).map fun r => (first :: r.1, r.2)

theorem length_of_readOctet {cs rest : List Char} {o : UInt8} (h : readOctet cs = some (o, rest)) :
    rest.length < cs.length := by
  revert h
  fun_cases readOctet cs with
  | case1 a b r m n =>
    rintro ⟨⟩
    simp only [List.length_cons]
    omega
  | case2 => rintro ⟨⟩
  | case3 => rintro ⟨⟩

theorem length_of_readFollowers {n : Nat} {os : List UInt8} {cs rest : List Char}
    (h : readFollowers n cs = some (os, rest)) : rest.length ≤ cs.length := by
  induction n generalizing cs os with
  | zero => cases h; exact Nat.le_refl _
  | succ n ih =>
    unfold readFollowers at h
    split at h
    · cases h
    · rename_i octet tail ho
      split at h
      · obtain ⟨r, hr, he⟩ := Option.map_eq_some_iff.1 h
        cases he
        exact Nat.le_trans (ih hr) (Nat.le_of_lt (length_of_readOctet ho))
      · cases h

theorem length_of_readEscapedOctets {cs rest : List Char} {os : List UInt8}
    (h : readEscapedOctets cs = some (os, rest)) : rest.length < cs.length := by
  unfold readEscapedOctets at h
  split at h
  · cases h
  · rename_i first tail ho
    split at h
    · cases h
    · obtain ⟨r, hr, he⟩ := Option.map_eq_some_iff.1 h
      cases he
      exact Nat.lt_of_le_of_lt (length_of_readFollowers hr) (length_of_readOctet ho)

/-- The octets of a character of a tag, all of which are ASCII; a percent sign escapes others. -/
def readTagChar (c : Char) (rest : List Char) : Option (List UInt8 × List Char) :=
  if c == '%' then readEscapedOctets (c :: rest) else some ([c.toUInt8], rest)

theorem length_of_readTagChar {c : Char} {os : List UInt8} {cs rest : List Char}
    (h : readTagChar c cs = some (os, rest)) : rest.length < cs.length + 1 := by
  unfold readTagChar at h
  split at h
  · exact length_of_readEscapedOctets h
  · cases h
    exact Nat.lt_succ_self _

/-- The octets of a tag, and the rest of the text. -/
def readTagChars (verbatim : Bool) (cs : List Char) : Option (List UInt8 × List Char) :=
  match cs with
  | [] => some ([], [])
  | c :: rest =>
    if !isTagChar verbatim c then some ([], c :: rest)
    else
      match _ : readTagChar c rest with
      | none => none
      | some (octets, tail) =>
        match readTagChars verbatim tail with
        | none => none
        | some (more, tail) => some (octets ++ more, tail)
termination_by cs.length
decreasing_by exact length_of_readTagChar ‹_›

/-- The cursor after part of its line. -/
def Cursor.upTo (c : Cursor) (rest : List Char) : Cursor := c.advance (c.rest.length - rest.length)

/-- A handle: an exclamation mark, and perhaps word characters up to another one. -/
def readHandle (c : Cursor) : Option (List Char × Cursor) :=
  match c.rest with
  | '!' :: rest =>
    let word := rest.takeWhile isWord
    match rest.drop word.length with
    | '!' :: _ => some ('!' :: word ++ ['!'], c.advance (word.length + 2))
    | _ => some ('!' :: word, c.advance (word.length + 1))
  | _ => none

/-- A handle names a set of tags when a second exclamation mark ends it. -/
def isNamedHandle (handle : List Char) : Bool := decide (2 ≤ handle.length) && handle.getLast? == some '!'

/-- A tag between angle brackets, after the opening one. -/
def readVerbatimTag (c : Cursor) : Option (TagMark × Cursor) :=
  match readTagChars true c.rest with
  | some (o :: octets, '>' :: rest) => some (⟨"", .ofOctets (o :: octets)⟩, c.upTo rest)
  | _ => none

/-- A tag that starts with a handle. -/
def readShorthandTag (c : Cursor) : Option (TagMark × Cursor) :=
  match readHandle c with
  | none => none
  | some (handle, c) =>
    match readTagChars false c.rest with
    | none => none
    | some (octets, rest) =>
      let c := c.upTo rest
      if isNamedHandle handle then
        if octets.isEmpty then none else some (⟨String.ofList handle, .ofOctets octets⟩, c)
      else
        let suffix : Tag := .ofOctets ((handle.drop 1).map Char.toUInt8 ++ octets)
        if suffix.isEmpty then some (⟨"", .lone⟩, c) else some (⟨"!", suffix⟩, c)

/-- A tag; white space has to follow it, or a comma inside brackets. -/
def readTag (inFlow : Bool) (c : Cursor) : Option (TagMark × Cursor) :=
  let result := match c.rest with
    | '!' :: '<' :: _ => readVerbatimTag (c.advance 2)
    | _ => readShorthandTag c
  match result with
  | none => none
  | some (tag, c) =>
    if startsBlank c.rest || (inFlow && startsWithAny [','] c.rest) then some (tag, c) else none

/-! ## Anchors -/

/-- The characters that may follow an anchor besides white space. -/
def anchorEnds : List Char := ['?', ':', ',', ']', '\x7d', '%', '@', '\x60']

/-- The name of an anchor or an alias, after its mark. -/
def readAnchor (c : Cursor) : Option (String × Cursor) :=
  let name := c.rest.takeWhile isWord
  let c := c.advance name.length
  if name.isEmpty || !(startsBlank c.rest || startsWithAny anchorEnds c.rest) then none
  else some (String.ofList name, c)

/-! ## Directives -/

/-- A number of at most nine digits. -/
def readVersionPart (c : Cursor) : Option (Nat × Cursor) :=
  let digits := c.rest.takeWhile Char.isDigit
  if digits.isEmpty || decide (9 < digits.length) then none
  else some (digits.foldl (fun n d => n * 10 + (d.toNat - 48)) 0, c.advance digits.length)

/-- The value of a version directive. -/
def readVersion (c : Cursor) : Option (Token × Cursor) :=
  match readVersionPart c.skipGaps with
  | none => none
  | some (major, c) =>
    if startsWithAny ['.'] c.rest then
      match readVersionPart (c.advance 1) with
      | none => none
      | some (minor, c) => some (.version major minor, c)
    else none

/-- The value of a directive that gives a handle a meaning. -/
def readHandleMeaning (c : Cursor) : Option (Token × Cursor) :=
  match readHandle c.skipGaps with
  | none => none
  | some (handle, c) =>
    if !(isNamedHandle handle || handle == ['!']) || !startsGap c.rest then none
    else
      let c := c.skipGaps
      match readTagChars true c.rest with
      | some (o :: octets, rest) =>
        if startsBlank rest then
          some (.handle (String.ofList handle) (.ofOctets (o :: octets)), c.upTo rest)
        else none
      | _ => none

/-- A directive after its mark, with the rest of its line. -/
def readDirective (c : Cursor) : Option (Token × Cursor) :=
  let name := c.rest.takeWhile isWord
  let c := c.advance name.length
  if !startsBlank c.rest then none
  else
    let result :=
      if name == ['Y', 'A', 'M', 'L'] then readVersion c
      else if name == ['T', 'A', 'G'] then readHandleMeaning c
      else none
    match result with
    | none => none
    | some (token, c) =>
      let c := c.skipGaps.skipComment
      if c.rest.isEmpty || startsBreak c.rest then some (token, c.skipBreak) else none

end ContractCompiler.Yaml
