import CachePolicy.Text.Digits

/-!
# Scientific notation

The common grammar of decimal numbers: a sign, digits around an optional point,
and an optional exponent.  A reading keeps the coefficient as a natural number
and counts the digits behind the point into the exponent.
-/

namespace CachePolicy

/-- The number `coefficient * 10 ^ exponent`, negated when `negative`. -/
structure Scientific where
  negative : Bool
  coefficient : Nat
  exponent : Int
  deriving DecidableEq, Repr

namespace Scientific

def splitSign : List Char → Bool × List Char
  | '-' :: cs => (true, cs)
  | '+' :: cs => (false, cs)
  | cs => (false, cs)

private def readExponent? : List Char → Option Int
  | [] => some 0
  | c :: cs =>
      if c = 'e' || c = 'E' then
        let (negative, digits) := splitSign cs
        (readNat? digits).map fun n => if negative then -(n : Int) else (n : Int)
      else none

/-- Reads an unsigned number; at least one digit stands before or behind the point. -/
def readUnsigned? (negative : Bool) (cs : List Char) : Option Scientific := do
  let (whole, rest) := spanDigits cs
  let (fraction, rest) :=
    match rest with
    | '.' :: rest => spanDigits rest
    | rest => ([], rest)
  let coefficient ← readNat? (whole ++ fraction)
  let exponent ← readExponent? rest
  return ⟨negative, coefficient, exponent - fraction.length⟩

end Scientific

end CachePolicy
