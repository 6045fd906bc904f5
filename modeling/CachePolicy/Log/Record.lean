import CachePolicy.Calendar.Moment
import CachePolicy.Log.Message
import CachePolicy.Log.Reported
import CachePolicy.Log.Row
import CachePolicy.Table
import CachePolicy.Value.Truth

/-!
# Log records

What a logger hands to its handlers: a message with arguments, the moment and the
process it comes from, further attributes, and the failure it reports if it does.  An
attribute with the name of one of these parts takes its place.
-/

namespace CachePolicy

structure LogRecord where
  logger : String
  level : Int
  message : Value
  arguments : List Value
  created : Int
  milliseconds : Int
  process : Value
  attributes : Table String Value
  reported : Reported

def levelName (number : Int) : String :=
  match Level.all.find? fun level => (level.number : Int) = number with
  | some level => level.name
  | none => "Level " ++ integerText number

namespace LogRecord

/-! ## Parts -/

/-- The part of a name, for which an attribute of that name goes before the record's own. -/
def part (r : LogRecord) (name : String) (own : Value) : Value := (r.attributes.get? name).getD own

def loggerPart (r : LogRecord) : Value := r.part "name" (.text r.logger)

def levelPart (r : LogRecord) : Value := r.part "levelname" (.text (levelName r.level))

def processPart (r : LogRecord) : Value := r.part "process" r.process

def reaches (r : LogRecord) (level : Level) : Except Fault Bool :=
  (r.part "levelno" (.int r.level)).atLeast level.number

/-- A single mapping stands for its entries, unless it is empty. -/
def ownArguments (r : LogRecord) : Value :=
  match r.arguments, r.arguments.map Value.bare with
  | v :: _, [.dict _ (_ :: _)] => v
  | arguments, _ => .tuple arguments

/-- A message without arguments is taken as it is. -/
def messageText (r : LogRecord) : Except Fault String := do
  let text ← (r.part "msg" r.message).display
  let arguments := r.part "args" r.ownArguments
  if ← arguments.truth then filledMessage text arguments else return text

/-- The message.  An attribute may name a class to make it of nothing. -/
def messagePart (r : LogRecord) : Except Fault Value := do
  match (r.attributes.get? "getMessage").map Value.bare with
  | none => return .text (← r.messageText)
  | some (.scalar (.kind c)) =>
      match c.emptyValue? with
      | some message => return message
      | none => throw .formatMismatch
  | some _ => throw .formatMismatch

/-! ## Times -/

/-- A record counts the seconds of its own moment in binary. -/
def moment (r : LogRecord) : Except Fault DateTime :=
  match (r.part "created" (.scalar (.float (.ofInt r.created)))).unwrapped with
  | .scalar (.float x) => (DateTime.ofReal x).mapError .timeRefused
  | v => do (DateTime.ofSeconds (← v.integer)).mapError .timeRefused

/-- The sign of a number takes one of the places. -/
def threePlaces (n : Int) : Except Fault String := do
  let digits ← limitedIntegerText n.natAbs
  return if n < 0 then String.ofList ('-' :: padLeft 2 '0' digits.toList)
    else String.ofList (padLeft 3 '0' digits.toList)

/-- The time in a given format, or with milliseconds when none is given. -/
def timeText (r : LogRecord) (form : Option String) : Except Fault String := do
  let moment ← r.moment
  match form with
  | some form => (moment.formatted form).mapError .timeRefused
  | none => do
      let text ← (moment.formatted "%Y-%m-%d %H:%M:%S").mapError .timeRefused
      let places ← threePlaces (← (r.part "msecs" (.int r.milliseconds)).whole)
      return text ++ "," ++ places

end LogRecord

/-! ## Failures -/

namespace LogRecord

/-- The failure that a record reports, where an attribute may tell of it in its place. -/
def reportedPart (r : LogRecord) (read : Value → Except Fault Reported) : Except Fault Reported :=
  match r.attributes.get? "exc_info" with
  | none => .ok r.reported
  | some v => do if ← v.truth then read v else return .nothing

end LogRecord

end CachePolicy
