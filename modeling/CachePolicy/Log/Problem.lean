import CachePolicy.Text.Digits

/-!
# What can be wrong with the text of a message
-/

namespace CachePolicy

inductive MessageProblem where
  | incomplete
  | incompleteName
  | widthTooLarge
  | precisionTooLarge
  | widthArgumentTooLarge
  | precisionArgumentTooLarge
  | noRoom
  | conversion (letter : Char) (position : Nat)
  | notANumber (binary : Bool)
  | infinite (binary : Bool)
  | signaling
  | realTooLarge
  | characterTooLarge
  deriving DecidableEq, Repr

namespace MessageProblem

def name : MessageProblem → String
  | incomplete | incompleteName | widthTooLarge | precisionTooLarge | conversion _ _
  | notANumber _ | signaling => "ValueError"
  | widthArgumentTooLarge | precisionArgumentTooLarge | infinite _ | realTooLarge
  | characterTooLarge => "OverflowError"
  | noRoom => "MemoryError"

/-- Only the letters and marks of ASCII are shown. -/
def conversionText (letter : Char) (position : Nat) : String :=
  let shown := if 31 ≤ letter.toNat && letter.toNat < 126 then letter else '?'
  "unsupported format character '" ++ String.ofList [shown] ++ "' (0x" ++
    paddedHex 1 letter.toNat ++ ") at index " ++ integerText position

def message : MessageProblem → String
  | incomplete => "incomplete format"
  | incompleteName => "incomplete format key"
  | widthTooLarge => "width too big"
  | precisionTooLarge => "precision too big"
  | widthArgumentTooLarge => "Python int too large to convert to C ssize_t"
  | precisionArgumentTooLarge => "Python int too large to convert to C int"
  | noRoom => ""
  | conversion letter position => conversionText letter position
  | notANumber true => "cannot convert float NaN to integer"
  | notANumber false => "cannot convert NaN to integer"
  | infinite true => "cannot convert float infinity to integer"
  | infinite false => "cannot convert Infinity to integer"
  | signaling => "cannot convert signaling NaN to float"
  | realTooLarge => "int too large to convert to float"
  | characterTooLarge => "%c arg not in range(0x110000)"

end MessageProblem

end CachePolicy
