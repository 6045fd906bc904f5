import CachePolicy.Backend.Basic
import CachePolicy.Interception.Policy
import CachePolicy.Operation.Registry
import CachePolicy.Settings.Memo

/-!
# Sessions

A session holds backends, decorators over them, and the functions that were declared
with those decorators.  Each backend stands behind a recorder, which notes the requests
of the engine and can make the answers of a method pending.
-/

namespace CachePolicy

/-! ## Recorded backends -/

/-- When the answer to a method comes: as the backend gives it, when it is awaited and then the
answer of the backend is awaited too, or when it is awaited and then just as the backend gave
it. -/
inductive Delay where
  | none
  | throughout
  | outside
  deriving DecidableEq, Repr

structure PendingMethods where
  get : Delay
  put : Delay
  delete : Delay
  deriving DecidableEq, Repr

namespace PendingMethods

def none : PendingMethods := ⟨.none, .none, .none⟩

def delay (p : PendingMethods) : Request → Delay
  | .get _ _ => p.get
  | .put _ _ _ _ => p.put
  | .delete _ _ => p.delete

end PendingMethods

structure RecordedBackend where
  backend : Backend
  pending : PendingMethods
  requests : List Request
  storeRequests : List StoreRequest

structure Substitutes where
  get? : Option (Except Failure Value)
  put? : Option (Except Failure Value)
  delete? : Option (Except Failure Value)

namespace Substitutes

def none : Substitutes := ⟨.none, .none, .none⟩

def answer? (s : Substitutes) (request : Request) : Option (Except Fault Value) :=
  let answer :=
    match request with
    | .get _ _ => s.get?
    | .put _ _ _ _ => s.put?
    | .delete _ _ => s.delete?
  answer.map fun result => result.mapError Fault.outside

end Substitutes

namespace RecordedBackend

def ofBackend (backend : Backend) (pending : PendingMethods) : RecordedBackend :=
  ⟨backend, pending, [], []⟩

/-- Carries a request out, with a substitute in place of the backend if there is one. -/
def perform (r : RecordedBackend) (substitutes : Substitutes) (script : StoreScript)
    (request : Request) : Except Fault Value × RecordedBackend × List LogRow :=
  match substitutes.answer? request with
  | some answer => (answer, r, [])
  | none =>
      let p :=
        match request with
        | .get _ key => r.backend.get script key
        | .put _ key value options => r.backend.put script key value options
        | .delete _ key => r.backend.delete script key
      (p.result, { r with backend := p.backend, storeRequests := r.storeRequests ++ p.requests },
        p.rows)

/-- Whether the answer to a request waits until it is awaited.  A substitute comes at once
unless the recorder itself makes the method pending. -/
def defers (r : RecordedBackend) (substitutes : Substitutes) (request : Request) : Bool :=
  r.pending.delay request ≠ .none ||
    (r.backend.isAsynchronous && (substitutes.answer? request).isNone)

/-- Carries a request out whose answer was pending.  Where only the recorder is awaited, an answer
of the backend that is pending itself counts as a value, and the request has no effect. -/
def settle (r : RecordedBackend) (substitutes : Substitutes) (script : StoreScript)
    (request : Request) : Except Fault Value × RecordedBackend × List LogRow :=
  if r.pending.delay request = .outside && r.backend.isAsynchronous &&
      (substitutes.answer? request).isNone then
    (.ok (.known (.builtIn "coroutine") [("__name__", .text request.method)]), r, [])
  else r.perform substitutes script request

def record (r : RecordedBackend) (request : Request) : RecordedBackend :=
  { r with requests := r.requests ++ [request] }

end RecordedBackend

/-! ## Decorators and functions -/

structure Decorator where
  backend : Nat
  config : Value
  enabled? : Option Value
  registry : Nat

inductive Body where
  | gives (value : Value)
  | fails (failure : Failure)
  | echoes (parameter : String)
  | collects

def Body.perform (b : Body) (arguments : Bindings) : Except Fault Value :=
  match b with
  | gives value => .ok value
  | fails failure => .error (.outside failure)
  | echoes parameter =>
      match arguments.get? parameter with
      | some value => .ok value
      | none => .error (.missingBinding parameter)
  | collects => .ok (.dict false (Signature.keywordEntries arguments))

/-- The body of each run in turn; the last one stands for all later runs. -/
def bodyOfRun (bodies : List Body) (run : Nat) : Body :=
  (bodies[run]?).getD (bodies.getLast?.getD .collects)

structure Layer where
  decorator : Decorator
  operation : Operation

structure DeclaredFunction where
  callable : Callable
  signature : Signature
  documentation : Option String
  asynchronous : Bool
  bodies : List Body
  layers : List Layer
  runs : Nat

namespace DeclaredFunction

def style (f : DeclaredFunction) : CallStyle := if f.asynchronous then .awaiting else .direct

def operationName (f : DeclaredFunction) : String :=
  f.callable.operationName f.signature.arity

end DeclaredFunction

/-- The functions that were declared, and how often the body of each operation ran that was
intercepted without one. -/
structure Session where
  backends : List RecordedBackend
  decorators : List Decorator
  registries : List Registry
  functions : Table String DeclaredFunction
  interceptions : Table String Nat
  environment : Environment
  memo : SettingsMemo

structure StepScript where
  store : StoreScript
  substitutes : Substitutes

def StepScript.none : StepScript := ⟨.none, .none⟩

end CachePolicy
