import CachePolicy.Log.Row
import CachePolicy.Operation.Basic

/-!
# Programs of an interception

What one intercepted call does, as a tree: it asks a backend, awaits an answer that is
still pending, runs the operation, logs, and ends with a result.  A handler carries a
program out on a state of its own.
-/

namespace CachePolicy

inductive Request where
  | get (config : Value) (key : String)
  | put (config : Value) (key : String) (value : Value) (options : Table String Value)
  | delete (config : Value) (key : String)

def Request.method : Request → String
  | get _ _ => "get"
  | put _ _ _ _ => "put"
  | delete _ _ => "delete"

/-- A method answers with a value, or with one that is there only when it is awaited. -/
inductive Reply where
  | value (v : Value)
  | pending

inductive Program where
  | done (result : Except Fault Value)
  | log (row : LogRow) (rest : Program)
  | ask (request : Request) (next : Except Fault Reply → Program)
  | await (request : Request) (next : Except Fault Value → Program)
  | run (next : Except Fault Value → Program)

namespace Program

def unlessFault {α : Type} (next : α → Program) : Except Fault α → Program
  | .error fault => done (.error fault)
  | .ok a => next a

/-- Goes on with a result or recovers from a fault, but an interrupt ends the call. -/
def caught {α : Type} (recover : Fault → Program) (next : α → Program) :
    Except Fault α → Program
  | .error fault => if fault.isInterrupt then done (.error fault) else recover fault
  | .ok a => next a

def answered (request : Request) (next : Except Fault Value → Program) : Program :=
  ask request fun reply =>
    match reply with
    | .error fault => next (.error fault)
    | .ok (.value v) => next (.ok v)
    | .ok .pending => await request next

end Program

structure Handler (σ : Type) where
  log : LogRow → σ → σ
  ask : Request → σ → Except Fault Reply × σ
  await : Request → σ → Except Fault Value × σ
  run : σ → Except Fault Value × σ

def Program.exec {σ : Type} (h : Handler σ) : Program → σ → Except Fault Value × σ
  | done result, s => (result, s)
  | log row rest, s => rest.exec h (h.log row s)
  | ask request next, s =>
      let (reply, s) := h.ask request s
      (next reply).exec h s
  | await request next, s =>
      let (answer, s) := h.await request s
      (next answer).exec h s
  | run next, s =>
      let (result, s) := h.run s
      (next result).exec h s

end CachePolicy
