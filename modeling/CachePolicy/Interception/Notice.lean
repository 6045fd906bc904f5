import CachePolicy.Interception.Policy
import CachePolicy.Log.Record

/-!
# Notices

What an interception gives to its logger: a message with its arguments, the attributes of
the interception, and the failure of a write.  The logger makes a record of it, with the
moment and the process.
-/

namespace CachePolicy

inductive Notice where
  | hit (key : String)
  | miss (key : String)
  | unavailable (key : String)
  | readFailed (key : String) (fault : Fault)
  | notStored (key : String)
  | notInvalidated
  | written (action : WriteAction) (key : String)
  | writeFailed (action : WriteAction) (key detail : String) (fault : Option Fault)

/-- Where, when and in which process a notice is given, and the text of the failure at hand with
all that led to it. -/
structure Origin where
  logger : String
  created : Nat
  milliseconds : Nat
  process : Nat
  stack : String
  created_lt : created < Nat.pow 2 53
  milliseconds_lt : milliseconds < 1000
  process_lt : process < Nat.pow 2 32

def LogContext.attributes (context : LogContext) : Table String Value :=
  [("cache_operation", .text context.operation), ("cache_mode", .text context.mode),
    ("cache_key", .text context.key), ("cache_outcome", .text context.outcome.name)]

namespace Notice

def row (op : Operation) : Notice → LogRow
  | hit key => op.hitRow key
  | miss key => op.missRow key
  | unavailable key => op.unavailableRow key
  | readFailed key fault => op.readFailedRow key fault
  | notStored key => op.notStoredRow key
  | notInvalidated => op.notInvalidatedRow
  | written action key => op.writtenRow action key
  | writeFailed action key detail fault => op.writeFailedRow action key detail fault

def template : Notice → String
  | hit _ => "Cache HIT: %s"
  | miss _ => "Cache MISS: %s"
  | unavailable _ => "Cache unavailable for %s, calling through"
  | readFailed _ _ => "Cache GET failed for %s, calling through: %s"
  | notStored _ => "Result not cached for %s: no pattern matched"
  | notInvalidated => "No invalidation for %s: no pattern matched"
  | written .put _ => "Cache PUT: %s"
  | written .delete _ => "Cache DEL: %s"
  | writeFailed _ _ _ _ => "Cache %s failed for %s: %s"

def arguments (op : Operation) : Notice → List String
  | hit key | miss key | unavailable key | notStored key | written _ key => [key]
  | readFailed key fault => [key, fault.message]
  | notInvalidated => [op.name]
  | writeFailed action key detail _ => [action.name, key, detail]

/-- Only the failure of a write is reported. -/
def reported (origin : Origin) : Notice → Reported
  | writeFailed _ _ _ (some fault) =>
      .told (some (.text fault.name)) (some fault.message) origin.stack
  | _ => .nothing

def record (op : Operation) (origin : Origin) (notice : Notice) : LogRecord where
  logger := origin.logger
  level := (notice.row op).level.number
  message := .text notice.template
  arguments := (notice.arguments op).map .text
  created := origin.created
  milliseconds := origin.milliseconds
  process := .int origin.process
  attributes := ((notice.row op).context.map LogContext.attributes).getD []
  reported := notice.reported origin

end Notice

end CachePolicy
