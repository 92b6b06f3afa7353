import ContractCompiler.Decimal

/-!
# What a plain scalar means

A scalar without quotes is null, a boolean, an integer of at most 128 bits, a double, or else a
text. Integers are decimal, or start with `0x`, `0o` or `0b`; a decimal number with superfluous
leading zeros is a text, and so is a number beyond the doubles.
-/

namespace ContractCompiler.Yaml

/-- The value of a plain scalar. -/
inductive Meaning where
  | null
  | bool (value : Bool)
  /-- An integer from `-2 ^ 127` up to `2 ^ 128 - 1`. -/
  | integer (value : Int)
  | float (value : Double)
  | infinity (negative : Bool)
  | notANumber
  | text
deriving DecidableEq, Repr

/-- The scalar stands for null, when it is not empty. -/
def isNull (s : String) : Bool := s == "null" || s == "Null" || s == "NULL" || s == "~"

/-- The boolean that a scalar writes. -/
def boolean? (s : String) : Option Bool :=
  if s == "true" || s == "True" || s == "TRUE" then some true
  else if s == "false" || s == "False" || s == "FALSE" then some false
  else none

/-- The value of a digit in some base up to 16. -/
def digitValue (c : Char) : Nat :=
  if c.isDigit then c.toNat - 48
  else if 'a' ≤ c ∧ c ≤ 'f' then c.toNat - 87
  else if 'A' ≤ c ∧ c ≤ 'F' then c.toNat - 55
  else 16

/-- The number that digits of a base write; none when there is no digit or a foreign character. -/
def natural? (base : Nat) (digits : List Char) : Option Nat :=
  if !digits.isEmpty && digits.all fun c => digitValue c < base then
    some (digits.foldl (fun n c => n * base + digitValue c) 0)
  else none

/-- The text after a sign. -/
def withoutSign : List Char → List Char
  | '+' :: rest => rest
  | '-' :: rest => rest
  | cs => cs

/-- A decimal number with a superfluous leading zero. -/
def hasSpareZero (cs : List Char) : Bool :=
  match withoutSign cs with
  | '0' :: d :: rest => (d :: rest).all Char.isDigit
  | _ => false

/-- The base that a text names, and its digits. -/
def basedDigits : List Char → Nat × List Char
  | '0' :: 'x' :: rest => (16, rest)
  | '0' :: 'o' :: rest => (8, rest)
  | '0' :: 'b' :: rest => (2, rest)
  | cs => (10, cs)

/-- The absolute value of an integer without its sign. -/
def magnitude? (cs : List Char) : Option Nat :=
  if hasSpareZero cs then none
  else natural? (basedDigits cs).1 (basedDigits cs).2

/-- The integer that a scalar writes, of at most 128 bits. -/
def integer? (cs : List Char) : Option Int :=
  match cs with
  | '-' :: rest =>
    match magnitude? rest with
    | some n => if n ≤ 1 <<< 127 then some (-(n : Int)) else none
    | none => none
  | '+' :: rest =>
    match magnitude? rest with
    | some n => if n < 1 <<< 128 then some n else none
    | none => none
  | cs =>
    match magnitude? cs with
    | some n => if n < 1 <<< 128 then some n else none
    | none => none

/-- The parts of a decimal number: its digits, how many of them follow the point, and the exponent. -/
structure DecimalParts where
  digits : List Char
  places : Nat
  exponent : Int

/-- The exponent of a decimal number, and whether the text ends there. -/
def exponent? : List Char → Option Int
  | [] => some 0
  | mark :: rest =>
    if mark == 'e' || mark == 'E' then
      match rest with
      | '-' :: digits => (natural? 10 digits).map fun n => -(n : Int)
      | '+' :: digits => (natural? 10 digits).map fun n => (n : Int)
      | digits => (natural? 10 digits).map fun n => (n : Int)
    else none

/-- A decimal number without its sign: digits with an optional point among or around them, and an
optional exponent. -/
def decimalParts? (cs : List Char) : Option DecimalParts :=
  let whole := cs.takeWhile Char.isDigit
  let rest := cs.dropWhile Char.isDigit
  let fraction : List Char × List Char := match rest with
    | '.' :: rest => (rest.takeWhile Char.isDigit, rest.dropWhile Char.isDigit)
    | rest => ([], rest)
  if whole.isEmpty && fraction.1.isEmpty then none
  else (exponent? fraction.2).map fun e => ⟨whole ++ fraction.1, fraction.1.length, e⟩

/-- Beyond this power of ten no double is finite, and below its inverse none is above zero. -/
def farPower : Int := 400

/-- The double nearest to a decimal number; none when it is not finite. -/
def DecimalParts.toDouble? (p : DecimalParts) (negative : Bool) : Option Double :=
  let n := p.digits.foldl (fun n c => n * 10 + digitValue c) 0
  let e := p.exponent - p.places
  let top := ((p.digits.dropWhile (· == '0')).length : Int) + e
  if n = 0 || top < -farPower then some (.zero negative)
  else if farPower < top then none
  else if 0 ≤ e then Double.ofRatio? negative (n * Nat.pow 10 e.toNat) 1
  else Double.ofRatio? negative n (Nat.pow 10 (-e).toNat)

/-- The double that a scalar writes in digits. -/
def decimal? (cs : List Char) : Option Double :=
  match cs with
  | '-' :: rest => (decimalParts? rest).bind fun p => p.toDouble? true
  | '+' :: rest => (decimalParts? rest).bind fun p => p.toDouble? false
  | cs => (decimalParts? cs).bind fun p => p.toDouble? false

/-- The floating point number that a scalar writes. -/
def float? (s : String) : Option Meaning :=
  if s == ".inf" || s == ".Inf" || s == ".INF" || s == "+.inf" || s == "+.Inf" || s == "+.INF" then
    some (.infinity false)
  else if s == "-.inf" || s == "-.Inf" || s == "-.INF" then some (.infinity true)
  else if s == ".nan" || s == ".NaN" || s == ".NAN" then some .notANumber
  else (decimal? s.toList).map .float

namespace Meaning

/-- The value of a plain scalar. -/
def ofText (s : String) : Meaning :=
  if s.isEmpty || isNull s then null
  else
    match boolean? s with
    | some b => bool b
    | none =>
      match integer? s.toList with
      | some i => integer i
      | none =>
        if hasSpareZero s.toList then text
        else (float? s).getD text

end Meaning

end ContractCompiler.Yaml
