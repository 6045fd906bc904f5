import CachePolicy.Operation.Signature
import CachePolicy.Pattern.Guard

/-!
# Operations

An operation is declared once: its name, the names it binds, its mode, its compiled
key, the guard on its result and the options that go to the backend with a write.
-/

namespace CachePolicy

inductive Mode where
  | cache
  | invalidate
  deriving DecidableEq, Repr

namespace Mode

def name : Mode → String
  | cache => "cache"
  | invalidate => "invalidate"

def ofText? : String → Option Mode
  | "cache" => some cache
  | "invalidate" => some invalidate
  | _ => none

def ofValue (v : Value) : Except Fault Mode :=
  match v.text?.bind ofText? with
  | some mode => .ok mode
  | none => do throw (.unknownMode (← v.shown))

end Mode

structure Operation where
  name : String
  argumentNames : List String
  mode : Mode
  key : CompiledKey
  guard : Guard
  options : Table String Value

structure Declaration where
  name : String
  argumentNames : List String
  mode : Value
  template : Value
  guard : Value
  options : Table String Value

/-- A wrong mode is reported before a wrong key. -/
def Declaration.operation (d : Declaration) : Except Fault Operation := do
  let mode ← Mode.ofValue d.mode
  let key ← CompiledKey.compile d.template d.argumentNames d.name mode.name
  return ⟨d.name, d.argumentNames, mode, key, Guard.ofValue d.guard, d.options⟩

end CachePolicy
