import CachePolicy.Number.Binary64
import CachePolicy.Number.Decimal

/-!
# Numbers compared by value

Integers, binary numbers and decimals are compared by their exact value.  A finite
value is written as a coefficient that ten does not divide and a power of ten, which
makes equal values equal terms.
-/

namespace CachePolicy

def Decimal.toBinary64 : Decimal → Binary64
  | nan _ _ _ => .nan
  | infinite negative => .infinite negative
  | finite negative coefficient exponent => .ofScientific ⟨negative, coefficient, exponent⟩

inductive Numeral where
  | nan (signaling : Bool)
  | infinite (negative : Bool)
  | finite (coefficient : Int) (exponent : Int)
  deriving DecidableEq, Repr

namespace Numeral

/-- Moves factors of ten from a coefficient into the exponent, at most as many as the fuel. -/
def stripTens : Nat → Nat → Int → Nat × Int
  | 0, coefficient, exponent => (coefficient, exponent)
  | fuel + 1, coefficient, exponent =>
      if coefficient % 10 = 0 then stripTens fuel (coefficient / 10) (exponent + 1)
      else (coefficient, exponent)

/-- A coefficient has fewer factors of ten than binary digits. -/
def ofScaled (negative : Bool) (coefficient : Nat) (exponent : Int) : Numeral :=
  if coefficient = 0 then .finite 0 0
  else
    let (coefficient, exponent) := stripTens coefficient.log2 coefficient exponent
    .finite (if negative then -(coefficient : Int) else coefficient) exponent

def ofInt (n : Int) : Numeral := ofScaled (n < 0) n.natAbs 0

def ofBinary64 : Binary64 → Numeral
  | .nan => .nan false
  | .infinite negative => .infinite negative
  | .finite negative significand exponent =>
      match exponent with
      | .ofNat n => ofScaled negative (significand * Nat.pow 2 n) 0
      | .negSucc n => ofScaled negative (significand * Nat.pow 5 (n + 1)) (.negSucc n)

def ofDecimal : Decimal → Numeral
  | .nan _ signaling _ => .nan signaling
  | .infinite negative => .infinite negative
  | .finite negative coefficient exponent => ofScaled negative coefficient exponent

/-- Whether two numbers are equal; a signaling NaN refuses the comparison. -/
def equal? : Numeral → Numeral → Option Bool
  | .nan true, _ => none
  | _, .nan true => none
  | .nan false, _ => some false
  | _, .nan false => some false
  | a, b => some (a = b)

/-- Whether a number is not below an integer; what is no number is not. -/
def atLeast (x : Numeral) (limit : Int) : Bool :=
  match x with
  | .nan _ => false
  | .infinite negative => !negative
  | .finite coefficient exponent =>
      match exponent with
      | .ofNat n => limit ≤ coefficient * Nat.pow 10 n
      | .negSucc n => limit * Nat.pow 10 (n + 1) ≤ coefficient

end Numeral

end CachePolicy
