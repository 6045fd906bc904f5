import CachePolicy.Log.Row
import CachePolicy.Operation.Basic
import CachePolicy.Value.Hashable

/-!
# Registries

A registry files operations under their name and mode.  An operation with the name and
mode of an earlier one replaces it in place and says so in the log.  A registration has a
registry behind it whether it fails or not.
-/

namespace CachePolicy

abbrev Registry := Table (String × Mode) Operation

namespace Registry

def replacedRow (op : Operation) : LogRow :=
  ⟨.debug, "Replacing registered @" ++ op.mode.name ++ " spec for " ++ op.name, none, none⟩

/-- The operation is made first, then looked for, and filed last. -/
def registration (d : Declaration) :
    ExceptT Fault (StateM Registry) (Operation × List LogRow) := do
  let op ← MonadExcept.ofExcept d.operation
  let ident := (op.name, op.mode)
  let rows := if (← get).contains ident then [replacedRow op] else []
  modify fun r => r.put ident op
  return (op, rows)

def register (r : Registry) (d : Declaration) :
    Except Fault (Operation × List LogRow) × Registry :=
  (registration d).run.run r

def operation? (r : Registry) (name : String) (mode : Value) : Except Fault (Option Operation) := do
  return r.get? (name, ← Mode.ofValue mode)

/-- A mode that does not exist has no operations, but what cannot be a key is refused. -/
def holds (r : Registry) (name : String) (mode : Value) : Except Fault Bool :=
  match mode.hashFault?, mode.text?.bind Mode.ofText? with
  | some fault, _ => .error fault
  | none, some mode => .ok (r.contains (name, mode))
  | none, none => .ok false

def operations (r : Registry) : List Operation := r.map (·.2)

end Registry

end CachePolicy
