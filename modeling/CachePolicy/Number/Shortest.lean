import CachePolicy.Number.Binary64

/-!
# Shortest decimal text of a binary number

Of all decimals that round to a given binary number, `shortest` takes one with
the fewest digits, and of those the nearest to the number.  The interval of
decimals that round to the number is closed when the significand is even.
-/

namespace CachePolicy

namespace Binary64

/-! ## The rounding interval -/

/-- Numbers `q / 4` units of `2 ^ exponent`: the low end, the number itself and the high end of
the interval that rounds to it.  Under a power of two the gap is half as wide. -/
structure Interval where
  low : Nat
  middle : Nat
  high : Nat
  closed : Bool
  exponent : Int
  deriving DecidableEq, Repr

def interval (significand : Nat) (exponent : Int) : Interval where
  low := if significand = Nat.pow 2 52 ∧ -1074 < exponent then 4 * significand - 1
    else 4 * significand - 2
  middle := 4 * significand
  high := 4 * significand + 2
  closed := significand % 2 == 0
  exponent := exponent - 2

/-- A number of units as a quotient of natural numbers. -/
def Interval.ratio (i : Interval) (units : Nat) : Nat × Nat :=
  match i.exponent with
  | .ofNat n => (units * Nat.pow 2 n, 1)
  | .negSucc n => (units, Nat.pow 2 (n + 1))

/-- The decimal `digits * 10 ^ power` and a bound over a common denominator. -/
def Interval.compared (i : Interval) (units digits : Nat) (power : Int) : Nat × Nat :=
  let (numerator, denominator) := i.ratio units
  match power with
  | .ofNat n => (digits * Nat.pow 10 n * denominator, numerator)
  | .negSucc n => (digits * denominator, numerator * Nat.pow 10 (n + 1))

def Interval.contains (i : Interval) (digits : Nat) (power : Int) : Bool :=
  let (x, low) := i.compared i.low digits power
  let (y, high) := i.compared i.high digits power
  if i.closed then low ≤ x && y ≤ high else low < x && y < high

/-! ## The fewest digits -/

/-- The decimal of a power of ten nearest to the number among its two neighbours there, if one of
them rounds to the number; at equal distance the even one. -/
def Interval.nearest? (i : Interval) (power : Int) : Option Nat :=
  let (unit, number) := i.compared i.middle 1 power
  let below := number / unit
  let rest := number % unit
  match i.contains below power, i.contains (below + 1) power with
  | false, false => none
  | true, false => some below
  | false, true => some (below + 1)
  | true, true =>
      if 2 * rest < unit || (2 * rest == unit && below % 2 == 0) then some below
      else some (below + 1)

/-- Drops the zeros at the end of a coefficient, raising the exponent for each. -/
def dropZeros : Nat → Nat → Int → Nat × Int
  | 0, coefficient, exponent => (coefficient, exponent)
  | fuel + 1, coefficient, exponent =>
      if coefficient ≠ 0 ∧ coefficient % 10 = 0 then
        dropZeros fuel (coefficient / 10) (exponent + 1)
      else (coefficient, exponent)

/-- The coefficient and the exponent of the shortest decimal of a positive number.  Seventeen
digits always suffice. -/
def shortest (significand : Nat) (exponent : Int) : Nat × Int :=
  let i := interval significand exponent
  let (numerator, denominator) := i.ratio i.middle
  let leading := floorLog10 numerator denominator
  let found := (List.range 17).findSome? fun (count : Nat) =>
    let power := leading - (count : Int)
    (i.nearest? power).map fun digits => (digits, power)
  match found with
  | some (digits, power) => dropZeros 20 digits power
  | none => (significand, exponent)

/-! ## Layout of the digits -/

/-- How the digits of a number are laid out: from `positionalFrom` up to below `positionalTo` the
leading digit's exponent gives positional notation, else an exponent of at least two digits. -/
structure DigitStyle where
  positionalFrom : Int
  positionalTo : Int
  exponentMark : Char
  exponentWidth : Nat
  notANumber : String
  infinity : String
  deriving DecidableEq, Repr

/-- Sixteen digits stand before the point at most, and four zeros behind it. -/
def plainStyle : DigitStyle :=
  ⟨-4, 16, 'e', 2, "nan", "inf"⟩

def positional (digits : List Char) (leading : Int) : List Char :=
  match leading with
  | .negSucc n => '0' :: '.' :: (List.replicate n '0' ++ digits)
  | .ofNat n =>
      let whole := digits.take (n + 1)
      let fraction := digits.drop (n + 1)
      padRight (n + 1) '0' whole ++ '.' :: (if fraction.isEmpty then ['0'] else fraction)

def exponential (style : DigitStyle) (digits : List Char) (leading : Int) : List Char :=
  let fraction := digits.drop 1
  digits.take 1 ++ (if fraction.isEmpty then [] else '.' :: fraction) ++
    style.exponentMark :: (if leading < 0 then '-' else '+') ::
      padLeft style.exponentWidth '0' (decimalDigits leading.natAbs)

def textWith (style : DigitStyle) : Binary64 → String
  | .nan => style.notANumber
  | .infinite negative => (if negative then "-" else "") ++ style.infinity
  | .finite negative significand exponent =>
      let body :=
        if significand = 0 then ['0', '.', '0']
        else
          let (coefficient, power) := shortest significand exponent
          let digits := decimalDigits coefficient
          let leading := power + digits.length - 1
          if style.positionalFrom ≤ leading ∧ leading < style.positionalTo then
            positional digits leading
          else exponential style digits leading
      String.ofList (if negative then '-' :: body else body)

def text : Binary64 → String := textWith plainStyle

end Binary64

end CachePolicy
