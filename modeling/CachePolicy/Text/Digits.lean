/-!
# Digits

Natural numbers written in base ten or sixteen, padded on the left, and the
reading of ASCII decimal digits.  Texts are handled as lists of characters.
-/

namespace CachePolicy

/-- No number with more decimal digits is written out or read. -/
def digitLimit : Nat := 4300

def decimalDigits (n : Nat) : List Char := Nat.toDigits 10 n

def padLeft (width : Nat) (fill : Char) (cs : List Char) : List Char :=
  List.replicate (width - cs.length) fill ++ cs

def padRight (width : Nat) (fill : Char) (cs : List Char) : List Char :=
  cs ++ List.replicate (width - cs.length) fill

/-- The decimal digits of a number, with zeros in front up to the width. -/
def paddedDecimal (width n : Nat) : String :=
  String.ofList (padLeft width '0' (decimalDigits n))

/-- The lower case hexadecimal digits of a number, with zeros in front up to the width. -/
def paddedHex (width n : Nat) : String :=
  String.ofList (padLeft width '0' (Nat.toDigits 16 n))

def integerText : Int → String
  | .ofNat n => String.ofList (decimalDigits n)
  | .negSucc n => String.ofList ('-' :: decimalDigits (n + 1))

/-! ## Reading -/

def digitValue? (c : Char) : Option Nat :=
  if '0' ≤ c && c ≤ '9' then some (c.toNat - 48) else none

def hexDigitValue? (c : Char) : Option Nat :=
  if '0' ≤ c && c ≤ '9' then some (c.toNat - 48)
  else if 'a' ≤ c && c ≤ 'f' then some (c.toNat - 87)
  else if 'A' ≤ c && c ≤ 'F' then some (c.toNat - 55)
  else none

/-- The value of a run of digits in a base, continued from a start value. -/
def digitsValue? (value? : Char → Option Nat) (base : Nat) : Nat → List Char → Option Nat
  | start, [] => some start
  | start, c :: cs => do digitsValue? value? base (base * start + (← value? c)) cs

def readNat? : List Char → Option Nat
  | [] => none
  | cs => digitsValue? digitValue? 10 0 cs

def spanDigits (cs : List Char) : List Char × List Char :=
  cs.span fun c => (digitValue? c).isSome

/-- Octets written as pairs of hexadecimal digits. -/
def readOctets? : List Char → Option (List UInt8)
  | [] => some []
  | high :: low :: rest => do
      let octet := 16 * (← hexDigitValue? high) + (← hexDigitValue? low)
      return octet.toUInt8 :: (← readOctets? rest)
  | [_] => none

/-- An integer written in hexadecimal after `0x`, with an optional minus sign. -/
def readHexInt? : List Char → Option Int
  | '-' :: '0' :: 'x' :: cs => (digitsValue? hexDigitValue? 16 0 cs).map fun n => -(n : Int)
  | '0' :: 'x' :: cs => (digitsValue? hexDigitValue? 16 0 cs).map Int.ofNat
  | _ => none

end CachePolicy
