import CachePolicy.Session.Call

/-!
# Steps of a session

Declaring a function, calling one, intercepting a bare operation, and changing the
environment.  A step that fails leaves what was done before it: the registrations of
inner decorators stay although the function is not declared.
-/

namespace CachePolicy

structure Decoration where
  decorator : Nat
  mode : Mode
  key : Value
  guard : Option Value
  options : Table String Value

namespace Decoration

/-- The guard of a decoration and its options.  A guard may be written among the options, but
only once; the names of other parts are no options, and an invalidation has none. -/
def settled (d : Decoration) : Except Fault (Value × Table String Value) :=
  let written := d.options.get? "on"
  let options := d.options.erase "on"
  if d.options.contains "key" || d.options.contains "self" || (d.guard.isSome && written.isSome) ||
      (d.mode = .invalidate && !options.isEmpty) then .error .callMismatch
  else .ok ((d.guard.or written).getD .unset, options)

end Decoration

/-- What a step answers, the session behind it, the rows logged, and by how much the runs that
are counted grew.  A function that is declared again counts from zero. -/
structure StepResult (α : Type) where
  answer : Except Fault α
  session : Session
  rows : List LogRow
  runs : Int

namespace Session

def quiet {α : Type} (s : Session) (answer : Except Fault α) : StepResult α :=
  ⟨answer, s, [], 0⟩

def forgetRequests (s : Session) : Session :=
  { s with backends := s.backends.map fun b => { b with requests := [], storeRequests := [] } }

/-! ## Declaring -/

/-- Applies one decoration outside of the layers that a function has. -/
def decorate (s : Session) (f : DeclaredFunction) (d : Decoration) :
    Except Fault (Layer × List LogRow) × Session :=
  match d.settled, s.decorators[d.decorator]? with
  | .error fault, _ => (.error fault, s)
  | .ok _, none => (.error (.positionMissing "list"), s)
  | .ok (guard, options), some decorator =>
      let registry := (s.registries[decorator.registry]?).getD []
      let declaration : Declaration := ⟨f.operationName, f.signature.argumentNames,
        .text d.mode.name, d.key, guard, options⟩
      let (answer, registry) := Registry.register registry declaration
      (answer.map fun (op, rows) => (⟨decorator, op⟩, rows),
        { s with registries := s.registries.set decorator.registry registry })

/-- Applies decorations one after the other and gathers the layers, the outermost first. -/
def decorateAll (f : DeclaredFunction) :
    Session → List Layer → List LogRow → List Decoration → StepResult (List Layer)
  | s, layers, rows, [] => ⟨.ok layers, s, rows, 0⟩
  | s, layers, rows, d :: rest =>
      match s.decorate f d with
      | (.ok (layer, more), s) => decorateAll f s (layer :: layers) (rows ++ more) rest
      | (.error fault, s) => ⟨.error fault, s, rows, 0⟩

def declare (s : Session) (name : String) (f : DeclaredFunction) (decorations : List Decoration) :
    StepResult DeclaredFunction :=
  let decorated := decorateAll f s [] [] decorations
  match decorated.answer with
  | .error fault => ⟨.error fault, decorated.session, decorated.rows, 0⟩
  | .ok layers =>
      let f := { f with layers := layers }
      ⟨.ok f, { decorated.session with functions := decorated.session.functions.put name f },
        decorated.rows, f.runs - ((s.functions.get? name).map DeclaredFunction.runs).getD 0⟩

/-! ## Calling -/

def scene (s : Session) (runs : Nat) : Scene := ⟨s.backends, s.memo, [], runs⟩

def call (s : Session) (script : StepScript) (name : String) (arguments : Arguments)
    (override : Option Body) : StepResult Value :=
  match s.functions.get? name with
  | none => s.quiet (.error (.missingBinding name))
  | some f =>
      let (answer, after) :=
        f.callThrough s.environment script override arguments f.layers (s.scene f.runs)
      ⟨answer,
        { s with
          backends := after.backends
          memo := after.memo
          functions := s.functions.put name { f with runs := after.runs } },
        after.rows, (after.runs : Int) - f.runs⟩

/-- Intercepts one run of a body under an operation that is declared for it alone.  Runs are
counted under the name of the operation. -/
def intercept (s : Session) (script : StepScript) (style : CallStyle) (declaration : Declaration)
    (bindings : Bindings) (bodies : List Body) (config : Value) (backend : Nat) :
    StepResult Value :=
  match declaration.operation with
  | .error fault => s.quiet (.error fault)
  | .ok op =>
      let runs := (s.interceptions.get? op.name).getD 0
      let run := fun scene : Scene => scene.runBody bodies none bindings
      let (answer, after) := (op.interception style bindings config).exec
        (Scene.handler script backend run) (s.scene runs)
      ⟨answer,
        { s with
          backends := after.backends
          memo := after.memo
          interceptions := s.interceptions.put op.name after.runs },
        after.rows, (after.runs : Int) - runs⟩

/-! ## The surroundings -/

def setEnvironment (s : Session) (environment : Environment) : StepResult Unit :=
  { s with environment := environment }.quiet (.ok ())

def clearSettings (s : Session) : StepResult Unit :=
  { s with memo := s.memo.clear }.quiet (.ok ())

def clearBackend (s : Session) (index : Nat) : StepResult Value :=
  match s.backends[index]? with
  | none => s.quiet (.error (.positionMissing "list"))
  | some recorded =>
      let p := recorded.backend.clear
      { s with backends := s.backends.set index { recorded with backend := p.backend } }.quiet
        p.result

def isEnabled (s : Session) (index : Nat) : StepResult Value :=
  match s.decorators[index]? with
  | none => s.quiet (.error (.positionMissing "list"))
  | some decorator =>
      let (enabled, memo) := decorator.enabled s.environment s.memo
      { s with memo := memo }.quiet enabled

def registryOf (s : Session) (index : Nat) : Registry :=
  match s.decorators[index]? with
  | some decorator => (s.registries[decorator.registry]?).getD []
  | none => []

end Session

end CachePolicy
