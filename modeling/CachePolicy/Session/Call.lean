import CachePolicy.Session.Basic

/-!
# Calls in a session

A call goes through the layers of a function from the outermost one inwards.  A layer
that is enabled binds the call and intercepts it; one that is not enabled, or that
cannot bind the call, passes it on.  The body runs on what the function itself
receives.
-/

namespace CachePolicy

/-- The part of a session that a call changes: the backends, the remembered settings, the rows
logged and the number of runs of the body. -/
structure Scene where
  backends : List RecordedBackend
  memo : SettingsMemo
  rows : List LogRow
  runs : Nat

namespace Scene

def log (s : Scene) (rows : List LogRow) : Scene := { s with rows := s.rows ++ rows }

def ask (script : StepScript) (index : Nat) (request : Request) (s : Scene) :
    Except Fault Reply × Scene :=
  match s.backends[index]? with
  | none => (.error (.positionMissing "list"), s)
  | some backend =>
      let backend := backend.record request
      if backend.defers script.substitutes request then
        (.ok .pending, { s with backends := s.backends.set index backend })
      else
        let (answer, backend, rows) := backend.perform script.substitutes script.store request
        (answer.map .value, { s with backends := s.backends.set index backend }.log rows)

def await (script : StepScript) (index : Nat) (request : Request) (s : Scene) :
    Except Fault Value × Scene :=
  match s.backends[index]? with
  | none => (.error (.positionMissing "list"), s)
  | some backend =>
      let (answer, backend, rows) := backend.settle script.substitutes script.store request
      (answer, { s with backends := s.backends.set index backend }.log rows)

/-- Carries programs out on one of the backends, with a given way to run the operation. -/
def handler (script : StepScript) (index : Nat) (run : Scene → Except Fault Value × Scene) :
    Handler Scene where
  log row s := s.log [row]
  ask := ask script index
  await := await script index
  run := run

end Scene

namespace Decorator

/-- A decorator that was not told whether it is enabled asks the settings. -/
def enabled (d : Decorator) (env : Environment) (memo : SettingsMemo) :
    Except Fault Value × SettingsMemo :=
  match d.enabled? with
  | some v => (.ok v, memo)
  | none =>
      let (settings, memo) := memo.get env []
      (settings.map fun found => .flag found.1.enabled, memo)

end Decorator

def Scene.runBody (bodies : List Body) (override : Option Body) (arguments : Bindings)
    (s : Scene) : Except Fault Value × Scene :=
  let body := override.getD (bodyOfRun bodies s.runs)
  (body.perform arguments, { s with runs := s.runs + 1 })

namespace DeclaredFunction

def callPlain (f : DeclaredFunction) (override : Option Body) (arguments : Arguments)
    (s : Scene) : Except Fault Value × Scene :=
  match f.signature.receive arguments with
  | some received => s.runBody f.bodies override received
  | none => (.error .callMismatch, s)

def callThrough (f : DeclaredFunction) (env : Environment) (script : StepScript)
    (override : Option Body) (arguments : Arguments) :
    List Layer → Scene → Except Fault Value × Scene
  | [], s => f.callPlain override arguments s
  | layer :: inner, s =>
      let inside := callThrough f env script override arguments inner
      let (enabled, memo) := layer.decorator.enabled env s.memo
      let s := { s with memo := memo }
      match enabled.bind Value.truth with
      | .error fault => (.error fault, s)
      | .ok false => inside s
      | .ok true =>
          match f.signature.bind arguments with
          | none => inside s
          | some bindings =>
              (layer.operation.interception f.style bindings layer.decorator.config).exec
                (Scene.handler script layer.decorator.backend inside) s

end DeclaredFunction

end CachePolicy
