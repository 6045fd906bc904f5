import CachePolicy.Number.Scientific

/-!
# Decimal numbers

A decimal keeps the exponent it was written with, so `1.0` and `1.00` are equal
numbers with different texts.  Its text has no exponent when the exponent is not
positive and at most six zeros follow the point; otherwise one digit stands in front
of the point.
-/

namespace CachePolicy

inductive Decimal where
  | nan (negative signaling : Bool) (payload : Nat)
  | infinite (negative : Bool)
  | finite (negative : Bool) (coefficient : Nat) (exponent : Int)
  deriving DecidableEq, Repr

namespace Decimal

private def signText (negative : Bool) : String := if negative then "-" else ""

def scientific (coefficient : Nat) (exponent : Int) : List Char :=
  let digits := decimalDigits coefficient
  let leading := exponent + digits.length
  let point := if exponent ≤ 0 ∧ -6 < leading then leading else 1
  let body :=
    match point with
    | .ofNat 0 => '0' :: '.' :: digits
    | .negSucc n => '0' :: '.' :: (List.replicate (n + 1) '0' ++ digits)
    | .ofNat n =>
        if digits.length ≤ n then padRight n '0' digits
        else digits.take n ++ '.' :: digits.drop n
  if leading = point then body
  else
    let shown := leading - point
    body ++ 'E' :: (if shown < 0 then '-' else '+') :: decimalDigits shown.natAbs

def text : Decimal → String
  | .nan negative signaling payload =>
      signText negative ++ (if signaling then "sNaN" else "NaN") ++
        (if payload = 0 then "" else String.ofList (decimalDigits payload))
  | .infinite negative => signText negative ++ "Infinity"
  | .finite negative coefficient exponent =>
      signText negative ++ String.ofList (scientific coefficient exponent)

private def readPayload? : List Char → Option Nat
  | [] => some 0
  | cs => readNat? cs

def ofText? (text : String) : Option Decimal :=
  let (negative, cs) := Scientific.splitSign text.toList
  match cs.map Char.toLower with
  | 'n' :: 'a' :: 'n' :: payload => (readPayload? payload).map (.nan negative false)
  | 's' :: 'n' :: 'a' :: 'n' :: payload => (readPayload? payload).map (.nan negative true)
  | ['i', 'n', 'f'] | ['i', 'n', 'f', 'i', 'n', 'i', 't', 'y'] => some (.infinite negative)
  | _ => (Scientific.readUnsigned? negative cs).map fun x =>
      .finite x.negative x.coefficient x.exponent

end Decimal

end CachePolicy
