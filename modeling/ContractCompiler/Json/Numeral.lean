import ContractCompiler.Json.Value

/-!
# Numbers in JSON text

An integer literal that fits 64 bits is exact. Any other number is a double: at most the first
digits that fit an unsigned 64-bit word are kept, and the word is multiplied or divided by a power
of ten, each step rounded once. A number beyond the range of doubles is refused.
-/

namespace ContractCompiler

namespace Json

/-- The value of a decimal digit. -/
def digitValue (c : Char) : Nat := c.toNat - 48

/-- The longest run of digits at the front, and the rest. -/
def spanDigits : List Char → List Char × List Char
  | [] => ([], [])
  | c :: rest =>
    if c.isDigit then
      match spanDigits rest with
      | (digits, after) => (c :: digits, after)
    else ([], c :: rest)

/-- The parts of a number as written. -/
structure Numeral where
  negative : Bool
  whole : List Char
  /-- The digits after the point, when there is one. -/
  fraction : Option (List Char)
  /-- Whether the exponent is negative, and its digits, when there is one. -/
  exponent : Option (Bool × List Char)
deriving Repr

/-- The fraction part of a numeral: a point needs at least one digit after it. -/
def readFraction : List Char → Option (Option (List Char) × List Char)
  | '.' :: rest =>
    let digits := spanDigits rest
    if digits.1.isEmpty then none else some (some digits.1, digits.2)
  | cs => some (none, cs)

/-- The sign of an exponent. -/
def readExponentSign : List Char → Bool × List Char
  | '+' :: rest => (false, rest)
  | '-' :: rest => (true, rest)
  | cs => (false, cs)

/-- The exponent part of a numeral: its mark needs at least one digit after it. -/
def readExponent : List Char → Option (Option (Bool × List Char) × List Char)
  | [] => some (none, [])
  | c :: rest =>
    if c = 'e' || c = 'E' then
      let sign := readExponentSign rest
      let digits := spanDigits sign.2
      if digits.1.isEmpty then none else some (some (sign.1, digits.1), digits.2)
    else some (none, c :: rest)

/-- The digits before the point: a leading zero stands alone. -/
def readWhole (cs : List Char) : Option (List Char × List Char) :=
  match spanDigits cs with
  | ([], _) => none
  | ('0' :: _ :: _, _) => none
  | (digits, rest) => some (digits, rest)

/-- The sign of a numeral. -/
def readSign : List Char → Bool × List Char
  | '-' :: rest => (true, rest)
  | cs => (false, cs)

/-- A numeral at the front of a text, and the rest. -/
def readNumeral (cs : List Char) : Option (Numeral × List Char) :=
  let sign := readSign cs
  match readWhole sign.2 with
  | none => none
  | some (whole, rest) =>
    match readFraction rest with
    | none => none
    | some (fraction, rest) =>
      match readExponent rest with
      | none => none
      | some (exponent, rest) => some (⟨sign.1, whole, fraction, exponent⟩, rest)

/-- The greatest unsigned 64-bit word. -/
def maxWord : Nat := 0xFFFFFFFFFFFFFFFF

/-- Appends digits to a number as long as it fits a word; the number of digits left over. -/
def takeDigits (n : Nat) : List Char → Nat × Nat
  | [] => (n, 0)
  | c :: rest =>
    if maxWord < n * 10 + digitValue c then (n, rest.length + 1)
    else takeDigits (n * 10 + digitValue c) rest

/-- The number that digits write. -/
def ofDigits (digits : List Char) : Nat := digits.foldl (fun n c => n * 10 + digitValue c) 0

/-- The greatest power of ten that is a double. -/
def maxPower : Nat := 308

/-- The double nearest to `10 ^ k`. -/
def powerOfTen (k : Nat) : Option Double := Double.ofRatio? false (Nat.pow 10 k) 1

/-- `d · 10 ^ e` by one multiplication or by repeated division. `fuel` bounds the divisions. -/
def scaled (d : Double) : Nat → Int → Option Double
  | 0, _ => some (.zero false)
  | fuel + 1, e =>
    if e.natAbs ≤ maxPower then
      match powerOfTen e.natAbs with
      | none => none
      | some p => if 0 ≤ e then d.mul? p else d.div? p
    else if d.isZero then some d
    else if 0 ≤ e then none
    else
      match powerOfTen maxPower with
      | none => none
      | some p =>
        match d.div? p with
        | none => none
        | some d => scaled d fuel (e + maxPower)

/-- The greatest exponent that is read as such. -/
def maxExponent : Nat := 0x7FFFFFFF

/-- `significand · 10 ^ point`, changed by the written exponent. -/
def Numeral.toDouble? (m : Numeral) (significand : Nat) (point : Int) : Option Double :=
  let written : Nat := match m.exponent with
    | some (_, digits) => ofDigits digits
    | none => 0
  let down := match m.exponent with
    | some (down, _) => down
    | none => false
  if maxExponent < written then
    if significand ≠ 0 ∧ !down then none else some (.zero m.negative)
  else
    let e := if down then max (point - written) (-0x80000000) else min (point + written) maxExponent
    match Double.ofRatio? false significand 1 with
    | none => none
    | some d =>
      match scaled d 16 e with
      | none => none
      | some r => some (r.withSign m.negative)

/-- The number that a numeral writes; `none` when it is beyond the doubles. -/
def Numeral.toNumber? (m : Numeral) : Option JsonNumber :=
  let whole := takeDigits 0 m.whole
  match m.fraction with
  | some digits =>
    let all := takeDigits whole.1 digits
    (m.toDouble? all.1 ((whole.2 : Int) - (digits.length - all.2 : Nat))).map .double
  | none =>
    match m.exponent with
    | some _ => (m.toDouble? whole.1 whole.2).map .double
    | none =>
      if whole.2 ≠ 0 then (m.toDouble? whole.1 whole.2).map .double
      else if m.negative then
        if whole.1 = 0 ∨ 0x8000000000000000 < whole.1 then
          (Double.ofRatio? true whole.1 1).map .double
        else JsonNumber.ofInt? (-(whole.1 : Int))
      else JsonNumber.ofInt? whole.1

end Json

end ContractCompiler
