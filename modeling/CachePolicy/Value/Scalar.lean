import CachePolicy.Calendar.Basic
import CachePolicy.Number.Numeral
import CachePolicy.Value.Class

/-!
# Scalar values

Values that hold no other values.  An account is a model record of plain data; a
handle is a model record around a lock, so it cannot be dumped.  Durations and zones are
only read from other values: a duration is a number of microseconds, and a zone has an
offset in seconds.
-/

namespace CachePolicy

inductive Scalar where
  | null
  | flag (b : Bool)
  | int (n : Int)
  | float (x : Binary64)
  | decimal (x : Decimal)
  | uuid (digits : String)
  | text (s : String)
  | bytes (octets : List UInt8)
  | buffer (octets : List UInt8)
  | date (d : Date)
  | dateTime (d : DateTime)
  | time (t : TimeOfDay)
  | account (id : Int) (tags : List String)
  | handle (id : Int)
  | lock
  | kind (c : Class)
  | unset
  | duration (microseconds : Int)
  | zone (offset : Int)
  deriving DecidableEq, Repr

namespace Scalar

/-- The exact value of a scalar that counts as a number; a flag counts as zero or one. -/
def numeral? : Scalar → Option Numeral
  | flag b => some (.ofInt b.toNat)
  | int n => some (.ofInt n)
  | float x => some (.ofBinary64 x)
  | decimal x => some (.ofDecimal x)
  | _ => none

end Scalar

end CachePolicy
