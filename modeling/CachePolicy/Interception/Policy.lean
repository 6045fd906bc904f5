import CachePolicy.Backend.Lookup
import CachePolicy.Interception.Program

/-!
# Interception policy

A cached operation is read through: a stored value is returned without running the
operation, a miss runs it once and stores a result that passes the guard, and a backend
that cannot be read runs it once and stores nothing.  An invalidating operation runs
once and then deletes its key if the result passes the guard.  A read that fails is
logged and forgiven; a write that fails ends the call with a contract fault.
-/

namespace CachePolicy

/-- How the answers of a backend are taken: at once, or awaited when they are pending. -/
inductive CallStyle where
  | direct
  | awaiting
  deriving DecidableEq, Repr

inductive WriteAction where
  | put
  | delete
  deriving DecidableEq, Repr

namespace WriteAction

def name : WriteAction → String
  | put => "put"
  | delete => "delete"

def label : WriteAction → String
  | put => "PUT"
  | delete => "DEL"

def succeeded : WriteAction → Outcome
  | put => .stored
  | delete => .invalidated

def failed : WriteAction → Outcome
  | put => .putFailed
  | delete => .deleteFailed

end WriteAction

namespace Operation

/-! ## Log rows -/

def row (op : Operation) (level : Level) (message key : String) (outcome : Outcome) : LogRow :=
  ⟨level, message, some ⟨op.name, op.mode.name, key, outcome⟩, none⟩

def hitRow (op : Operation) (key : String) : LogRow :=
  op.row .debug ("Cache HIT: " ++ key) key .hit

def missRow (op : Operation) (key : String) : LogRow :=
  op.row .debug ("Cache MISS: " ++ key) key .miss

def unavailableRow (op : Operation) (key : String) : LogRow :=
  op.row .warning ("Cache unavailable for " ++ key ++ ", calling through") key .unavailable

def readFailedRow (op : Operation) (key : String) (fault : Fault) : LogRow :=
  op.row .warning ("Cache GET failed for " ++ key ++ ", calling through: " ++ fault.message) key
    .unavailable

def notStoredRow (op : Operation) (key : String) : LogRow :=
  op.row .debug ("Result not cached for " ++ key ++ ": no pattern matched") key .skipped

def notInvalidatedRow (op : Operation) : LogRow :=
  op.row .debug ("No invalidation for " ++ op.name ++ ": no pattern matched") "" .skipped

def writtenRow (op : Operation) (action : WriteAction) (key : String) : LogRow :=
  op.row .debug ("Cache " ++ action.label ++ ": " ++ key) key action.succeeded

def writeFailedRow (op : Operation) (action : WriteAction) (key detail : String)
    (fault : Option Fault) : LogRow :=
  { op.row .error ("Cache " ++ action.name ++ " failed for " ++ key ++ ": " ++ detail) key
      action.failed with faultName := fault.map Fault.name }

/-! ## Steps -/

def callThrough : Program := .run .done

def readFailed (op : Operation) (key : String) (fault : Fault) : Program :=
  .log (op.readFailedRow key fault) callThrough

def writeFailed (op : Operation) (action : WriteAction) (key : String) (fault : Option Fault) :
    Program :=
  let detail :=
    match fault with
    | some fault => fault.message
    | none => "backend returned False"
  .log (op.writeFailedRow action key detail fault)
    (.done (.error (.contract action.name op.name key detail fault)))

/-- Only an answer of false reports that a write failed. -/
def writeAnswered (op : Operation) (action : WriteAction) (key : String) (value : Value) :
    Value → Program
  | .flag false => op.writeFailed action key none
  | _ => .log (op.writtenRow action key) (.done (.ok value))

def ifGuarded (op : Operation) (value : Value) (passed : Program) (skippedRow : LogRow) :
    Program :=
  match op.guard.holds value with
  | .error fault => .done (.error fault)
  | .ok true => passed
  | .ok false => .log skippedRow (.done (.ok value))

/-- A hit is returned, an unavailable lookup is passed by, and after a miss a result that passes
the guard is stored. -/
def afterLookup (op : Operation) (key : String) (store : Value → Program) (lookup : Lookup) :
    Program :=
  if lookup.found then .log (op.hitRow key) (.done (.ok lookup.value))
  else if lookup.isUnavailable then .log (op.unavailableRow key) callThrough
  else
    .log (op.missRow key) (.run (.unlessFault fun value =>
      op.ifGuarded value (store value) (op.notStoredRow key)))

/-- The key is rendered only when the result has passed the guard. -/
def runThenDelete (op : Operation) (bindings : Bindings) (delete : String → Value → Program) :
    Program :=
  .run (.unlessFault fun value =>
    op.ifGuarded value
      (.unlessFault (fun key => delete key value) (op.key.render bindings))
      op.notInvalidatedRow)

/-! ## Answers taken at once

A pending answer is refused, and the refusal is no failure of the backend: it ends the call. -/

def atOnce (op : Operation) (request : Request) (next : Value → Program) : Reply → Program
  | .value v => next v
  | .pending => .done (.error (.awaitableReply request.method op.name))

def write (op : Operation) (action : WriteAction) (request : Request) (key : String)
    (value : Value) : Program :=
  .ask request (.caught (fun fault => op.writeFailed action key (some fault))
    (op.atOnce request (op.writeAnswered action key value)))

def readThrough (op : Operation) (bindings : Bindings) (config : Value) : Program :=
  .unlessFault (fun key =>
    .ask (.get config key) (.caught (op.readFailed key)
      (op.atOnce (.get config key) fun answer =>
        op.afterLookup key
          (fun value => op.write .put (.put config key value op.options) key value)
          (.ofReply answer))))
    (op.key.render bindings)

def runThenInvalidate (op : Operation) (bindings : Bindings) (config : Value) : Program :=
  op.runThenDelete bindings fun key value => op.write .delete (.delete config key) key value

def intercept (op : Operation) (bindings : Bindings) (config : Value) : Program :=
  match op.mode with
  | .cache => op.readThrough bindings config
  | .invalidate => op.runThenInvalidate bindings config

/-! ## Answers awaited

A request fails in the same way whether it is refused or its answer never comes. -/

def writeAwaiting (op : Operation) (action : WriteAction) (request : Request) (key : String)
    (value : Value) : Program :=
  .answered request (.caught (fun fault => op.writeFailed action key (some fault))
    (op.writeAnswered action key value))

def readThroughAwaiting (op : Operation) (bindings : Bindings) (config : Value) : Program :=
  .unlessFault (fun key =>
    .answered (.get config key) (.caught (op.readFailed key) fun answer =>
      op.afterLookup key
        (fun value => op.writeAwaiting .put (.put config key value op.options) key value)
        (.ofReply answer)))
    (op.key.render bindings)

def runThenInvalidateAwaiting (op : Operation) (bindings : Bindings) (config : Value) : Program :=
  op.runThenDelete bindings fun key value =>
    op.writeAwaiting .delete (.delete config key) key value

def interceptAwaiting (op : Operation) (bindings : Bindings) (config : Value) : Program :=
  match op.mode with
  | .cache => op.readThroughAwaiting bindings config
  | .invalidate => op.runThenInvalidateAwaiting bindings config

def interception (op : Operation) (style : CallStyle) (bindings : Bindings) (config : Value) :
    Program :=
  match style with
  | .direct => op.intercept bindings config
  | .awaiting => op.interceptAwaiting bindings config

end Operation

end CachePolicy
