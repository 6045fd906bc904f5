import CachePolicy.Datum.Printer
import CachePolicy.Log.Record
import CachePolicy.Number.Integer
import CachePolicy.Settings.Basic
import CachePolicy.Text.Blank

/-!
# Log lines

The two forms in which records are written.  A plain line is followed by the text of
the failure and by that of the stack on lines of their own.  A structured line is one JSON
object: members for an interception and for a failure are there only when the record has
them.
-/

namespace CachePolicy

/-! ## Values in structured lines -/

def memberName (v : Value) : Except Fault String :=
  match v.unwrapped with
  | .text s => .ok s
  | .null => .ok "null"
  | .flag b => .ok (if b then "true" else "false")
  | .int n => limitedIntegerText n
  | .scalar (.float x) => .ok (Datum.floatText x)
  | _ => .error .unencodable

def Scalar.lineDatum : Scalar → Except Fault Datum
  | null => .ok .null
  | flag b => .ok (.flag b)
  | int n => do
      let _ ← limitedIntegerText n
      return .int n
  | float x => .ok (.float x)
  | text s => .ok (.text s)
  | s => do return .text (← s.display)

mutual

/-- A value as data of a line; what is neither a number, a text nor a container is written as
its text.  The entries of a mapping are read through its attribute for them. -/
def Value.lineDatum : Value → (refusals : Refusals := []) → Except Fault Datum
  | .scalar s, _ => s.lineDatum
  | .list items, _ | .tuple items, _ => do return .list (← lineItems items)
  | .named _ fields, _ => do return .list (← lineFields fields)
  | .dict false entries, refusals => do
      refusals.allow (.attribute "items")
      return .map (← lineEntries entries)
  | .member mixin cls name value, refusals =>
      match mixin.content? with
      | some s => s.lineDatum
      | none => do return .text (← (Value.member mixin cls name value).display refusals)
  | .refusing more value, refusals => value.lineDatum (refusals ++ more)
  | v, refusals => do return .text (← v.display refusals)

def lineItems : List Value → Except Fault (List Datum)
  | [] => .ok []
  | v :: rest => do return (← v.lineDatum) :: (← lineItems rest)

def lineFields : List (String × Value) → Except Fault (List Datum)
  | [] => .ok []
  | (_, v) :: rest => do return (← v.lineDatum) :: (← lineFields rest)

def lineEntries : List (Value × Value) → Except Fault (List (String × Datum))
  | [] => .ok []
  | (k, v) :: rest => do
      let name ← memberName k
      return (name, ← v.lineDatum) :: (← lineEntries rest)

end

/-! ## Structured lines -/

def contextAttributes : List (String × String) :=
  [("cache_operation", "operation"), ("cache_mode", "mode"), ("cache_key", "key"),
    ("cache_outcome", "outcome")]

def defaultStackLimit : Int := 4000

def complaintLimit : Nat := 200

def stackLimit (env : Environment) : Except Fault Int :=
  match env.get? "LOG_STACK_LIMIT" with
  | none => .ok defaultStackLimit
  | some text =>
      match readInteger text with
      | .ok limit => .ok limit
      | .error (.tooManyDigits count) => .error (.tooManyDigits count)
      | .error .malformed =>
          .error (.invalidInteger (String.ofList ((quoted text).toList.take complaintLimit)))

/-- The start of a text up to a limit; a negative limit counts from the end. -/
def truncated (text : String) (limit : Int) : String :=
  let cs := text.toList
  let kept :=
    match limit with
    | .ofNat n => cs.take n
    | .negSucc n => cs.take (cs.length - (n + 1))
  String.ofList kept ++ (if limit < cs.length then "...(truncated)" else "")

namespace LogRecord

def contextMembers (r : LogRecord) : Except Fault (List (String × Datum)) := do
  let present := contextAttributes.filterMap fun (source, name) =>
    match r.attributes.get? source with
    | none | some .null => none
    | some v => some (name, v)
  present.mapM fun (name, v) => do return (name, ← v.lineDatum)

def failureMembers : Reported → Except Fault (List (String × Datum))
  | .failure f =>
      .ok (("type", Datum.text f.kind.name) ::
        (if f.message = "" then [] else [("message", .text f.message)]))
  | .told kind message _ => do
      let kinds ← match kind with
        | some kind => if ← kind.truth then pure [("type", ← kind.lineDatum)] else pure []
        | none => pure []
      return kinds ++ match message with
        | none | some "" => []
        | some words => [("message", .text words)]
  | .nothing => .ok []

/-- The limit is read only when there is a failure to report. -/
def errorMember (r : LogRecord) (env : Environment) : Except Fault (List (String × Datum)) := do
  let reported ← r.reportedPart Reported.ofParts
  match reported.fullText? with
  | none => return []
  | some stack =>
      let limit ← stackLimit env
      return [("error", .map ((← failureMembers reported) ++
        [("stack", .text (truncated stack limit))]))]

def structured (r : LogRecord) (form : Option String) (env : Environment) : Except Fault Datum := do
  let time ← r.timeText form
  let message ← r.messagePart
  let error ← r.errorMember env
  let level ← r.levelPart.lineDatum
  let logger ← r.loggerPart.lineDatum
  let process ← r.processPart.lineDatum
  let message ← message.lineDatum
  let context ← r.contextMembers
  return .map ([("time", Datum.text time), ("level", level), ("logger", logger),
      ("pid", process), ("message", message)] ++
    (if context.isEmpty then [] else [("cache", .map context)]) ++ error)

/-- An empty format counts as none. -/
def jsonLine (r : LogRecord) (form : Option String) (env : Environment) :
    Except Fault String := do
  (← r.structured (nonEmpty? form) env).print Datum.line

/-! ## Plain lines -/

def endsLine (text : String) : Bool := text.toList.getLast? = some '\n'

def dropLineEnd (text : String) : String :=
  if endsLine text then String.ofList text.toList.dropLast else text

def below (line text : String) : String := (if endsLine line then line else line ++ "\n") ++ text

/-- The text of an attribute, unless that is not set or empty. -/
def textPart? (r : LogRecord) (name : String) : Except Fault (Option String) := do
  let v := r.part name .null
  if !(← v.truth) then return none
  match v.text? with
  | some text => return some text
  | none => throw .formatMismatch

/-- A text of the failure that the record brings with it goes before that of the failure, whose
parts are not looked at then. -/
def failureText? (r : LogRecord) : Except Fault (Option String) := do
  let text ← r.textPart? "exc_text"
  let reported ← r.reportedPart
    (if text.isSome then fun _ => .ok .nothing else Reported.ofLastParts)
  return text.or (reported.fullText?.map dropLineEnd)

def plainLine (r : LogRecord) (form : Option String) : Except Fault String := do
  let message ← r.messagePart
  let time ← r.timeText (nonEmpty? form)
  let level ← r.levelPart.display
  let process ← limitedIntegerText (← r.processPart.whole)
  let logger ← r.loggerPart.display
  let message ← message.display
  let line := time ++ " " ++ String.ofList (padRight 5 ' ' level.toList) ++ " [pid:" ++ process ++
    "] " ++ logger ++ ": " ++ message
  let line := ((← r.failureText?).map (below line)).getD line
  return ((← r.textPart? "stack_info").map (below line)).getD line

end LogRecord

end CachePolicy
