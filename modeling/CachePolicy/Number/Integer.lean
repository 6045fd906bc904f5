import CachePolicy.Number.Scientific

/-!
# Numbers written in any script

A number may have blanks around it, a sign in front, and single underscores between its
digits.  The digits are the decimal digits of any script.  Integers are read; of other
numbers it is only told whether a text is one.
-/

namespace CachePolicy

/-- The zeros of the scripts that have decimal digits; nine further digits follow each. -/
def scriptZeros : List Nat := [
  0x0030, 0x0660, 0x06F0, 0x07C0, 0x0966, 0x09E6, 0x0A66, 0x0AE6, 0x0B66, 0x0BE6, 0x0C66, 0x0CE6,
  0x0D66, 0x0DE6, 0x0E50, 0x0ED0, 0x0F20, 0x1040, 0x1090, 0x17E0, 0x1810, 0x1946, 0x19D0, 0x1A80,
  0x1A90, 0x1B50, 0x1BB0, 0x1C40, 0x1C50, 0xA620, 0xA8D0, 0xA900, 0xA9D0, 0xA9F0, 0xAA50, 0xABF0,
  0xFF10, 0x104A0, 0x10D30, 0x11066, 0x110F0, 0x11136, 0x111D0, 0x112F0, 0x11450, 0x114D0, 0x11650,
  0x116C0, 0x11730, 0x118E0, 0x11950, 0x11C50, 0x11D50, 0x11DA0, 0x16A60, 0x16AC0, 0x16B50,
  0x1D7CE, 0x1D7D8, 0x1D7E2, 0x1D7EC, 0x1D7F6, 0x1E140, 0x1E2F0, 0x1E950, 0x1FBF0]

def scriptDigitValue? (c : Char) : Option Nat :=
  (scriptZeros.find? fun first => first ≤ c.toNat && c.toNat < first + 10).map (c.toNat - ·)

def isBlank (c : Char) : Bool :=
  let n := c.toNat
  (9 ≤ n && n ≤ 13) || n = 0x20 || n = 0x85 || n = 0xA0 || n = 0x1680 ||
    (0x2000 ≤ n && n ≤ 0x200A) || n = 0x2028 || n = 0x2029 || n = 0x202F || n = 0x205F ||
    n = 0x3000

/-- The characters that a numeral is made of once its sign is read. -/
def isNumeralChar (c : Char) : Bool := c = '_' || (scriptDigitValue? c).isSome

/-- Whether every underscore stands between two digits, when the character in front is a digit
or not. -/
def isGrouped : Bool → List Char → Bool
  | afterDigit, [] => afterDigit
  | afterDigit, c :: rest =>
      if c = '_' then afterDigit && isGrouped false rest else isGrouped true rest

inductive IntegerProblem where
  | malformed
  | tooManyDigits (count : Nat)
  deriving DecidableEq, Repr

/-- Reads an integer.  The digits at the front are counted before it is asked whether anything
but blanks stands behind them. -/
def readInteger (text : String) : Except IntegerProblem Int :=
  let (negative, cs) := Scientific.splitSign (text.toList.dropWhile isBlank)
  let run := cs.takeWhile isNumeralChar
  let digits := run.filterMap scriptDigitValue?
  if !isGrouped false run then .error .malformed
  else if digitLimit < digits.length then .error (.tooManyDigits digits.length)
  else if (cs.drop run.length).all isBlank then
    let n : Nat := digits.foldl (fun value digit => 10 * value + digit) 0
    .ok (if negative then -(n : Int) else (n : Int))
  else .error .malformed

/-- Whether a text is a number with an optional point and exponent, or a word for none or for
an infinite one. -/
def isRealText (text : String) : Bool :=
  let cs := ((text.toList.dropWhile isBlank).reverse.dropWhile isBlank).reverse
  let ascii := cs.map fun c => ((scriptDigitValue? c).map Nat.digitChar).getD c
  let (negative, body) := Scientific.splitSign ascii
  let word := String.ofList (body.map Char.toLower)
  let separated := (body.splitBy fun c d => isNumeralChar c == isNumeralChar d).all fun run =>
    !run.contains '_' || isGrouped false run
  word = "inf" || word = "infinity" || word = "nan" ||
    (separated && (Scientific.readUnsigned? negative (body.filter (· ≠ '_'))).isSome)

end CachePolicy
