import CachePolicy.Fault

/-!
# Refused reads

A read that a value refuses ends what reads it with the failure of the read.  The fields of
a record are read by name, in the order in which they are declared.
-/

namespace CachePolicy

namespace Refusals

def fault? (refusals : Refusals) (access : Access) : Option Fault :=
  (refusals.get? access).map .readRefused

/-- Goes on unless a read is refused. -/
def allow (refusals : Refusals) (access : Access) : Except Fault Unit :=
  match refusals.fault? access with
  | some fault => .error fault
  | none => .ok ()

/-- The fault of reading a field that was never set. -/
def missingFault (refusals : Refusals) (cls name : String) : Fault :=
  (refusals.fault? (.attribute name)).getD (.attributeMissing cls name)

end Refusals

namespace Value

/-- The first fault when the fields of a record are read in turn; those never set come last. -/
def recordFault? : Value → (refusals : Refusals := []) → Option Fault
  | refusing more value, refusals => value.recordFault? (refusals ++ more)
  | data cls fields missing, refusals =>
      (fields.findSome? fun field => refusals.fault? (.attribute field.1)).or
        (missing.head?.map (refusals.missingFault cls))
  | _, _ => none

end Value

end CachePolicy
