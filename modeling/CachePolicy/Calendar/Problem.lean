/-!
# What can be wrong with a moment

Seconds are counted in 64 bits, and the years of a date from 1900 in 32.
-/

namespace CachePolicy

inductive TimeProblem where
  | notANumber
  | secondsOutOfRange
  | yearOutOfRange
  | yearTooLate
  | nulCharacter
  deriving DecidableEq, Repr

namespace TimeProblem

def name : TimeProblem → String
  | notANumber | nulCharacter => "ValueError"
  | secondsOutOfRange | yearTooLate => "OverflowError"
  | yearOutOfRange => "OSError"

def message : TimeProblem → String
  | notANumber => "Invalid value NaN (not a number)"
  | secondsOutOfRange => "timestamp out of range for platform time_t"
  | yearOutOfRange => "[Errno 75] Value too large for defined data type"
  | yearTooLate => "signed integer is greater than maximum"
  | nulCharacter => "embedded null character"

end TimeProblem

end CachePolicy
