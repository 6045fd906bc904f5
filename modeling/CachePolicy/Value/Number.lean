import CachePolicy.Value.Shown

/-!
# Values as numbers

A value may stand for an integer as it is, for an integer once its fraction is dropped,
or for a binary number.  A value that does not is refused, also where numbers are compared.
-/

namespace CachePolicy

/-- A decimal without its fraction; one of too many digits to be written out is not computed. -/
def Decimal.whole : Decimal → Except Fault Int
  | nan _ _ _ => .error (.messageRefused (.notANumber false))
  | infinite _ => .error (.messageRefused (.infinite false))
  | finite negative coefficient exponent =>
      match exponent with
      | .ofNat n =>
          if coefficient = 0 then .ok 0
          else if digitLimit < n then .error .integerTooLong
          else .ok (Binary64.signed negative (coefficient * Nat.pow 10 n))
      | .negSucc n =>
          if (decimalDigits coefficient).length ≤ n then .ok 0
          else .ok (Binary64.signed negative (coefficient / Nat.pow 10 (n + 1)))

namespace Value

def integer (v : Value) : Except Fault Int :=
  match v.unwrapped with
  | flag b => .ok b.toNat
  | int n => .ok n
  | _ => .error .formatMismatch

def whole (v : Value) : Except Fault Int :=
  match v.unwrapped with
  | scalar (.float x) =>
      match x, x.whole? with
      | _, some n => .ok n
      | .nan, none => .error (.messageRefused (.notANumber true))
      | _, none => .error (.messageRefused (.infinite true))
  | scalar (.decimal x) => x.whole
  | scalar (.uuid digits) =>
      .ok ((digitsValue? hexDigitValue? 16 0 (digits.toList.filter (· ≠ '-'))).getD 0)
  | v => v.integer

def real (v : Value) : Except Fault Binary64 :=
  match v.unwrapped with
  | scalar (.float x) => .ok x
  | scalar (.decimal (.nan _ true _)) => .error (.messageRefused .signaling)
  | scalar (.decimal x) => .ok x.toBinary64
  | v => do
      match Binary64.ofInt (← v.integer) with
      | .infinite _ => throw (.messageRefused .realTooLarge)
      | x => return x

/-- Whether a value is a number that is not below a limit. -/
def atLeast (v : Value) (limit : Int) : Except Fault Bool :=
  match v.unwrapped with
  | scalar (.decimal (.nan _ _ _)) => .error .signalingComparison
  | scalar s =>
      match s.numeral? with
      | some x => .ok (x.atLeast limit)
      | none => .error .formatMismatch
  | _ => .error .formatMismatch

end Value

end CachePolicy
