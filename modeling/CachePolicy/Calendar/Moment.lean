import CachePolicy.Calendar.Format
import CachePolicy.Calendar.Problem
import CachePolicy.Number.Binary64

/-!
# Moments

A moment is a number of seconds from the start of 1970.  It becomes a date and a time
of day, and these a text, as long as the numbers on the way stay within their bounds.
-/

namespace CachePolicy

namespace DateTime

def ofSeconds (n : Int) : Except TimeProblem DateTime :=
  if n < -Nat.pow 2 63 || Nat.pow 2 63 ≤ n then .error .secondsOutOfRange
  else
    let moment := ofUnixSeconds n
    let year := moment.date.year - 1900
    if year < -Nat.pow 2 31 || Nat.pow 2 31 ≤ year then .error .yearOutOfRange else .ok moment

/-- A part of a second is dropped, also in front of 1970. -/
def ofReal (x : Binary64) : Except TimeProblem DateTime :=
  match x, x.floor? with
  | .nan, _ => .error .notANumber
  | _, none => .error .secondsOutOfRange
  | _, some n => ofSeconds n

def formatted (d : DateTime) (form : String) : Except TimeProblem String :=
  if Nat.pow 2 31 ≤ d.date.year then .error .yearTooLate
  else if form.toList.contains '\x00' then .error .nulCharacter
  else .ok (d.format form)

end DateTime

end CachePolicy
