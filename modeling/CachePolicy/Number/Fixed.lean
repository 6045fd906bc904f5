import CachePolicy.Number.Binary64

/-!
# Numbers with a fixed count of digits

A positive quotient is written with so many places behind the point, or with so many
digits and a power of ten, or in the shorter of the two ways.  A quotient halfway
between two texts goes to the even one.
-/

namespace CachePolicy

/-- How a number is written out: with places behind the point, with a power of ten, or in the way
that fits its size.  A bare point and zeros at the end are kept when `full`. -/
inductive NumberForm where
  | places
  | power
  | general
  deriving DecidableEq, Repr

namespace NumberForm

/-- Digits of which the last few stand behind the point. -/
def pointed (full : Bool) (places : Nat) (digits : List Char) : List Char :=
  let digits := padLeft (places + 1) '0' digits
  let whole := digits.take (digits.length - places)
  let fraction := digits.drop (digits.length - places)
  whole ++ (if fraction.isEmpty && !full then [] else '.' :: fraction)

def placesChars (full : Bool) (places numerator denominator : Nat) : List Char :=
  pointed full places (decimalDigits (roundHalfEven (numerator * Nat.pow 10 places) denominator))

/-- The leading digits of a quotient, with the power of ten of the first. -/
def leadingDigits (count numerator denominator : Nat) : List Char × Int :=
  if numerator = 0 then (List.replicate count '0', 0)
  else
    let power := floorLog10 numerator denominator
    let digits :=
      match power - (count - 1 : Nat) with
      | .ofNat n => roundHalfEven numerator (denominator * Nat.pow 10 n)
      | .negSucc n => roundHalfEven (numerator * Nat.pow 10 (n + 1)) denominator
    if digits = Nat.pow 10 count then (decimalDigits (Nat.pow 10 (count - 1)), power + 1)
    else (decimalDigits digits, power)

def powerChars (power : Int) : List Char :=
  'e' :: (if power < 0 then '-' else '+') :: padLeft 2 '0' (decimalDigits power.natAbs)

/-- Drops zeros behind a point, and the point when nothing is left behind it. -/
def trimmed (cs : List Char) : List Char :=
  if cs.contains '.' then
    let kept := cs.reverse.dropWhile (· = '0')
    (if kept.head? = some '.' then kept.tail else kept).reverse
  else cs

/-- A general number has a power of ten when that is below minus four, or not below the count of
digits asked for. -/
def chars (form : NumberForm) (full : Bool) (precision numerator denominator : Nat) : List Char :=
  match form with
  | places => placesChars full precision numerator denominator
  | power =>
      let (digits, leading) := leadingDigits (precision + 1) numerator denominator
      pointed full precision digits ++ powerChars leading
  | general =>
      let count := max precision 1
      let (digits, leading) := leadingDigits count numerator denominator
      let shortened := if full then id else trimmed
      if -4 ≤ leading && leading < count then
        shortened (pointed full (count - 1 - leading).toNat digits)
      else shortened (pointed full (count - 1) digits) ++ powerChars leading

end NumberForm

namespace Binary64

/-- The text of a number without its sign, and whether it is negative. -/
def formChars (form : NumberForm) (full : Bool) (precision : Nat) : Binary64 → Bool × List Char
  | nan => (false, "nan".toList)
  | infinite negative => (negative, "inf".toList)
  | finite negative significand exponent =>
      let (numerator, denominator) := quotient significand exponent
      (negative, form.chars full precision numerator denominator)

end Binary64

end CachePolicy
