import ContractCompiler.Decimal

/-!
# JSON values

Objects keep the order of their members. An integer that fits a signed or an unsigned 64-bit word
is exact; every other number is a double.
-/

namespace ContractCompiler

inductive JsonNumber where
  | integer (value : Int) (fits : -0x8000000000000000 ≤ value ∧ value < 0x10000000000000000)
  | double (value : Double)
deriving DecidableEq, Repr

/-- The integer as a number, when it fits a 64-bit word. -/
def JsonNumber.ofInt? (i : Int) : Option JsonNumber :=
  if h : -0x8000000000000000 ≤ i ∧ i < 0x10000000000000000 then some (.integer i h) else none

inductive Json where
  | null
  | bool (value : Bool)
  | number (value : JsonNumber)
  | string (value : String)
  | array (items : List Json)
  | object (members : List (String × Json))
deriving Repr, Inhabited

namespace Json

mutual

/-- Equality of values is decidable. -/
def decEq : (a b : Json) → Decidable (a = b)
  | null, b => by
    cases b <;> first | exact isTrue rfl | exact isFalse (by intro h; cases h)
  | bool x, b => by
    cases b
    case bool y => exact if h : x = y then isTrue (by rw [h]) else isFalse (by intro e; cases e; exact h rfl)
    all_goals exact isFalse (by intro h; cases h)
  | number x, b => by
    cases b
    case number y => exact if h : x = y then isTrue (by rw [h]) else isFalse (by intro e; cases e; exact h rfl)
    all_goals exact isFalse (by intro h; cases h)
  | string x, b => by
    cases b
    case string y => exact if h : x = y then isTrue (by rw [h]) else isFalse (by intro e; cases e; exact h rfl)
    all_goals exact isFalse (by intro h; cases h)
  | array xs, b => by
    cases b
    case array ys =>
      exact match decEqItems xs ys with
        | isTrue h => isTrue (by rw [h])
        | isFalse h => isFalse (by intro e; cases e; exact h rfl)
    all_goals exact isFalse (by intro h; cases h)
  | object xs, b => by
    cases b
    case object ys =>
      exact match decEqMembers xs ys with
        | isTrue h => isTrue (by rw [h])
        | isFalse h => isFalse (by intro e; cases e; exact h rfl)
    all_goals exact isFalse (by intro h; cases h)

def decEqItems : (a b : List Json) → Decidable (a = b)
  | [], [] => isTrue rfl
  | [], _ :: _ => isFalse (by intro h; cases h)
  | _ :: _, [] => isFalse (by intro h; cases h)
  | x :: xs, y :: ys =>
    match decEq x y, decEqItems xs ys with
    | isTrue h, isTrue g => isTrue (by rw [h, g])
    | isFalse h, _ => isFalse (by intro e; cases e; exact h rfl)
    | _, isFalse g => isFalse (by intro e; cases e; exact g rfl)

def decEqMembers : (a b : List (String × Json)) → Decidable (a = b)
  | [], [] => isTrue rfl
  | [], _ :: _ => isFalse (by intro h; cases h)
  | _ :: _, [] => isFalse (by intro h; cases h)
  | (k, x) :: xs, (l, y) :: ys =>
    if hk : k = l then
      match decEq x y, decEqMembers xs ys with
      | isTrue h, isTrue g => isTrue (by rw [hk, h, g])
      | isFalse h, _ => isFalse (by intro e; cases e; exact h rfl)
      | _, isFalse g => isFalse (by intro e; cases e; exact g rfl)
    else isFalse (by intro e; cases e; exact hk rfl)

end

instance : DecidableEq Json := decEq

/-- An unsigned 64-bit word as a value. -/
def ofWord (n : UInt64) : Json :=
  .number (.integer n.toNat ⟨by have := Int.natCast_nonneg n.toNat; omega, by have := n.toNat_lt; omega⟩)

/-- The value of an object's member; the first one with that key. -/
def member? (key : String) : Json → Option Json
  | object members => (members.find? fun m => m.1 == key).map (·.2)
  | _ => none

end Json

end ContractCompiler
