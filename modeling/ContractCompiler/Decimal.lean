/-!
# Double-precision numbers

A finite IEEE double as sign, mantissa and binary exponent, with a proof that the pair is the
canonical one. Arithmetic is exact on ratios of naturals and rounded once: `ofRatio?` gives the
nearest double, a tie goes to the even mantissa, and an overflow is `none`. `Double.render` writes
the shortest digits that read back in a layout.
-/

namespace ContractCompiler

/-- The number `± mantissa · 2 ^ exponent`. The mantissa has 53 bits, and fewer only with the least
exponent. -/
structure Double where
  negative : Bool
  mantissa : Nat
  exponent : Int
  canonical : mantissa < 0x20000000000000 ∧ -1074 ≤ exponent ∧ exponent ≤ 971 ∧
    (0x10000000000000 ≤ mantissa ∨ exponent = -1074)
deriving DecidableEq, Repr

namespace Double

/-- Positive or negative zero. -/
def zero (negative : Bool) : Double := ⟨negative, 0, -1074, by decide⟩

instance : Inhabited Double := ⟨zero false⟩

/-- The quotient rounded to the nearest natural, a tie to the even one. -/
def roundDiv (num den : Nat) : Nat :=
  let q := num / den
  let r := num % den
  if 2 * r < den then q
  else if den < 2 * r then q + 1
  else if q % 2 = 0 then q
  else q + 1

/-- The double with the given parts, when they are canonical. -/
def ofParts? (negative : Bool) (mantissa : Nat) (exponent : Int) : Option Double :=
  if h : mantissa < 0x20000000000000 ∧ -1074 ≤ exponent ∧ exponent ≤ 971 ∧
      (0x10000000000000 ≤ mantissa ∨ exponent = -1074) then
    some ⟨negative, mantissa, exponent, h⟩
  else none

/-- `num / den` divided by `2 ^ e`, as a ratio. -/
def scaleDown (num den : Nat) (e : Int) : Nat × Nat :=
  if 0 ≤ e then (num, den <<< e.toNat) else (num <<< (-e).toNat, den)

/-- The binary exponent of the double nearest to `num / den`, before a carry. -/
def binaryExponent (num den : Nat) : Int :=
  let e : Int := (num.log2 : Int) - (den.log2 : Int) - 52
  let scaled := scaleDown num den e
  let e := if scaled.1 < scaled.2 <<< 52 then e - 1 else e
  max e (-1074)

/-- The double nearest to `± num / den`; `none` when it is too large. -/
def ofRatio? (negative : Bool) (num den : Nat) : Option Double :=
  if num = 0 then some (zero negative)
  else
    let e := binaryExponent num den
    let scaled := scaleDown num den e
    let m := roundDiv scaled.1 scaled.2
    if m = 0x20000000000000 then ofParts? negative 0x10000000000000 (e + 1) else ofParts? negative m e

/-- The absolute value as a ratio. -/
def ratio (d : Double) : Nat × Nat :=
  if 0 ≤ d.exponent then (d.mantissa <<< d.exponent.toNat, 1)
  else (d.mantissa, 1 <<< (-d.exponent).toNat)

def isZero (d : Double) : Bool := d.mantissa == 0

/-- The product of the absolute values, with the sign of `a`. -/
def mul? (a b : Double) : Option Double :=
  ofRatio? a.negative (a.ratio.1 * b.ratio.1) (a.ratio.2 * b.ratio.2)

/-- The quotient of the absolute values, with the sign of `a`. -/
def div? (a b : Double) : Option Double :=
  ofRatio? a.negative (a.ratio.1 * b.ratio.2) (a.ratio.2 * b.ratio.1)

def withSign (d : Double) (negative : Bool) : Double := ⟨negative, d.mantissa, d.exponent, d.canonical⟩

end Double

/-! ## Shortest decimal digits

Among the decimal numbers that read back as a given double, `Double.shortest` takes one with the
fewest digits, and of those the nearest; a tie goes to the even last digit. The numbers that read
back form an interval around the double, whose ends belong to it exactly when the mantissa is even.
-/

/-- The numbers that read back as a double: `low`, `value` and `high` over the common denominator
`den`. -/
structure ReadBack where
  low : Nat
  value : Nat
  high : Nat
  den : Nat
  closed : Bool

namespace ReadBack

/-- The interval of a double. The gap below a power of two is half as wide. -/
def ofDouble (d : Double) : ReadBack :=
  let m := d.mantissa
  let below := if m = 0x10000000000000 ∧ d.exponent ≠ -1074 then 1 else 2
  let e := d.exponent - 2
  let scale := if 0 ≤ e then 1 <<< e.toNat else 1
  let den := if 0 ≤ e then 1 else 1 <<< (-e).toNat
  ⟨(4 * m - below) * scale, 4 * m * scale, (4 * m + 2) * scale, den, m % 2 == 0⟩

/-- The interval measured in units of `10 ^ e`. -/
def inUnits (b : ReadBack) (e : Int) : ReadBack :=
  if 0 ≤ e then { b with den := b.den * Nat.pow 10 e.toNat }
  else
    let p := Nat.pow 10 (-e).toNat
    { b with low := b.low * p, value := b.value * p, high := b.high * p }

/-- The natural number `n` lies in the interval. -/
def has (b : ReadBack) (n : Nat) : Bool :=
  if b.closed then decide (b.low ≤ n * b.den) && decide (n * b.den ≤ b.high)
  else decide (b.low < n * b.den) && decide (n * b.den < b.high)

/-- The natural number in the interval that is nearest to the value, if there is one. -/
def nearest? (b : ReadBack) : Option Nat :=
  let n := b.value / b.den
  let r := b.value % b.den
  match b.has n, b.has (n + 1) with
  | true, false => some n
  | false, true => some (n + 1)
  | false, false => none
  | true, true =>
    if 2 * r < b.den then some n
    else if b.den < 2 * r then some (n + 1)
    else if n % 2 = 0 then some n
    else some (n + 1)

end ReadBack

/-- The number of decimal digits of `n`, for `n` below `10 ^ fuel`. -/
def decimalLength : Nat → Nat → Nat
  | 0, _ => 0
  | fuel + 1, n => if n = 0 then 0 else decimalLength fuel (n / 10) + 1

/-- The least `j` from `k` on with `num · 10 ^ j ≥ den`, searched for `fuel` steps. -/
def leadingZeros (num den : Nat) : Nat → Nat → Nat
  | 0, k => k
  | fuel + 1, k => if den ≤ num * Nat.pow 10 k then k else leadingZeros num den fuel (k + 1)

/-- The `k` with `10 ^ (k - 1) ≤ num / den < 10 ^ k`, for doubles that are not zero. -/
def decimalPoint (num den : Nat) : Int :=
  if den ≤ num then (decimalLength 400 (num / den) : Int)
  else 1 - (leadingZeros num den 400 1 : Int)

/-- The first digit count from `digits` on, at most `fuel` tries, whose grid meets the interval:
the number on the grid and its unit as a power of ten. -/
def firstGrid (b : ReadBack) (point : Int) : Nat → Nat → Nat × Int
  | 0, digits => (b.value / b.den, point - digits)
  | fuel + 1, digits =>
    match (b.inUnits (point - digits)).nearest? with
    | some n => (n, point - digits)
    | none => firstGrid b point fuel (digits + 1)

/-- Moves trailing zeros of `n` into the exponent. -/
def withoutTrailingZeros : Nat → Nat → Int → Nat × Int
  | 0, n, e => (n, e)
  | fuel + 1, n, e => if n % 10 = 0 ∧ n ≠ 0 then withoutTrailingZeros fuel (n / 10) (e + 1) else (n, e)

/-- The shortest decimal form `c · 10 ^ e` of the absolute value of a double that is not zero; `c`
does not end in a zero. -/
def Double.shortest (d : Double) : Nat × Int :=
  let b := ReadBack.ofDouble d
  let grid := firstGrid b (decimalPoint b.value b.den) 17 1
  withoutTrailingZeros 20 grid.1 grid.2

/-! ## Layouts

A `DecimalLayout` says which numbers are written positionally and whether a positive exponent
carries a sign.
-/

/-- The decisions of a format of decimal numbers. The point position of `0.ddd · 10 ^ p` is `p`. -/
structure DecimalLayout where
  /-- Positions at or below this one are written with an exponent. -/
  above : Int
  /-- The greatest position written without an exponent. -/
  upTo : Int
  /-- Positive exponents carry a plus sign. -/
  plus : Bool

/-- Every double is positional. -/
def DecimalLayout.positional : DecimalLayout := ⟨-400, 400, false⟩

/-- A row of zeros. -/
def zeros (n : Nat) : String := String.ofList (List.replicate n '0')

/-- Digits with the point at position `p`; at least one digit stands on either side of it. -/
def positional (digits : List Char) (p : Int) : String :=
  if p ≤ 0 then "0." ++ zeros (-p).toNat ++ String.ofList digits
  else
    let k := p.toNat
    if digits.length ≤ k then String.ofList digits ++ zeros (k - digits.length) ++ ".0"
    else String.ofList (digits.take k) ++ "." ++ String.ofList (digits.drop k)

/-- One digit before the point, the rest after it, and an exponent. -/
def scientific (plus : Bool) (digits : List Char) (p : Int) : String :=
  let lead := String.ofList (digits.take 1)
  let tail := digits.drop 1
  let fraction := if tail.isEmpty then "" else "." ++ String.ofList tail
  let e := p - 1
  let mark := if 0 ≤ e && plus then "e+" else "e"
  lead ++ fraction ++ mark ++ toString e

/-- The text of a double: its shortest digits, always with a point or an exponent. -/
def Double.render (layout : DecimalLayout) (d : Double) : String :=
  let sign := if d.negative then "-" else ""
  if d.isZero then sign ++ "0.0"
  else
    let s := d.shortest
    let digits := (toString s.1).toList
    let p := (digits.length : Int) + s.2
    sign ++
      (if layout.above < p && p ≤ layout.upTo then positional digits p
       else scientific layout.plus digits p)

end ContractCompiler
