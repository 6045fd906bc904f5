import CachePolicy.Number.Scientific

/-!
# Binary floating point numbers of 64 bits

A finite number is `significand * 2 ^ exponent` with a significand below
`2 ^ 53` and an exponent of at least `-1074`; below `2 ^ 52` the exponent is
`-1074`, and zero has exponent zero.  `ofRatio` rounds an exact quotient to the
nearest number, ties to the even significand.
-/

namespace CachePolicy

inductive Binary64 where
  | nan
  | infinite (negative : Bool)
  | finite (negative : Bool) (significand : Nat) (exponent : Int)
  deriving DecidableEq, Repr

/-- The integer nearest to a quotient; a quotient halfway goes to the even neighbour. -/
def roundHalfEven (numerator denominator : Nat) : Nat :=
  let quotient := numerator / denominator
  let twice := 2 * (numerator % denominator)
  if twice < denominator || (twice == denominator && quotient % 2 == 0) then quotient
  else quotient + 1

/-- Whether `left * base ^ power` is at most `right`, for a power of either sign. -/
def scaledLe (base : Nat) (left : Nat) (power : Int) (right : Nat) : Bool :=
  match power with
  | .ofNat n => left * Nat.pow base n ≤ right
  | .negSucc n => left ≤ right * Nat.pow base (n + 1)

/-- The greatest power of two that a positive quotient reaches. -/
def floorLog2 (numerator denominator : Nat) : Int :=
  let estimate : Int := (numerator.log2 : Int) - denominator.log2
  if scaledLe 2 denominator estimate numerator then estimate else estimate - 1

/-- The greatest power of ten that a positive quotient reaches. -/
def floorLog10 (numerator denominator : Nat) : Int :=
  let estimate : Int := (floorLog2 numerator denominator * 1233) / 4096
  if scaledLe 10 denominator (estimate + 1) numerator then estimate + 1
  else if scaledLe 10 denominator estimate numerator then estimate
  else estimate - 1

namespace Binary64

def zero (negative : Bool) : Binary64 := .finite negative 0 0

def ofRatio (negative : Bool) (numerator denominator : Nat) : Binary64 :=
  if numerator = 0 then zero negative
  else
    let exponent := max (floorLog2 numerator denominator - 52) (-1074)
    let significand :=
      match exponent with
      | .ofNat n => roundHalfEven numerator (denominator * Nat.pow 2 n)
      | .negSucc n => roundHalfEven (numerator * Nat.pow 2 (n + 1)) denominator
    if significand = 0 then zero negative
    else
      let (significand, exponent) :=
        if significand = Nat.pow 2 53 then (Nat.pow 2 52, exponent + 1) else (significand, exponent)
      if 971 < exponent then .infinite negative else .finite negative significand exponent

/-- Beyond a magnitude of ten to the power of 400 either way the result is infinite or zero. -/
def ofScientific (x : Scientific) : Binary64 :=
  let magnitude : Int := (decimalDigits x.coefficient).length + x.exponent
  if x.coefficient = 0 then zero x.negative
  else if 400 < magnitude then .infinite x.negative
  else if magnitude < -400 then zero x.negative
  else
    match x.exponent with
    | .ofNat n => ofRatio x.negative (x.coefficient * Nat.pow 10 n) 1
    | .negSucc n => ofRatio x.negative x.coefficient (Nat.pow 10 (n + 1))

def ofText? (text : String) : Option Binary64 :=
  let (negative, cs) := Scientific.splitSign text.toList
  match String.ofList (cs.map Char.toLower) with
  | "nan" => some .nan
  | "inf" | "infinity" => some (.infinite negative)
  | _ => (Scientific.readUnsigned? negative cs).map ofScientific

/-- A finite number without its sign as a quotient. -/
def quotient (significand : Nat) (exponent : Int) : Nat × Nat :=
  match exponent with
  | .ofNat n => (significand * Nat.pow 2 n, 1)
  | .negSucc n => (significand, Nat.pow 2 (n + 1))

def signed (negative : Bool) (n : Nat) : Int := if negative then -(n : Int) else n

def integer? : Binary64 → Option Int
  | finite negative significand exponent =>
      let (numerator, denominator) := quotient significand exponent
      if numerator % denominator = 0 then some (signed negative (numerator / denominator)) else none
  | _ => none

/-- The greatest integer that is not above a finite number. -/
def floor? : Binary64 → Option Int
  | finite negative significand exponent =>
      let (numerator, denominator) := quotient significand exponent
      some (signed negative numerator / (denominator : Int))
  | _ => none

def whole? : Binary64 → Option Int
  | finite negative significand exponent =>
      let (numerator, denominator) := quotient significand exponent
      some (signed negative (numerator / denominator))
  | _ => none

def ofInt (n : Int) : Binary64 := ofRatio (n < 0) n.natAbs 1

def isZero : Binary64 → Bool
  | .finite _ 0 _ => true
  | _ => false

end Binary64

end CachePolicy
