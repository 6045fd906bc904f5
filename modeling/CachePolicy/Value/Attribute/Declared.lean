import CachePolicy.Value.Attribute.Constant
import CachePolicy.Value.Layout

/-!
# Reading from classes

What a class declares under a name, itself or through the classes above it, and what is read
from a class: what it tells about itself, else what it declares, else what the class of
classes provides.
-/

namespace CachePolicy

/-- What a class declares under a name: a value, or a routine of the class or of another one. -/
inductive Declared where
  | constant (v : Value)
  | routine (owner : Class) (r : Routine)

namespace Declared

def readFrom (v : Value) (c : Class) : Declared → Option Value
  | constant value => some value
  | routine owner r => r.boundTo owner c v

def heldBy (c : Class) : Declared → Value
  | constant value => value
  | routine owner r => r.heldBy owner c

/-- Reading of this name does not get behind what reads a part. -/
def readsPart : Declared → Bool
  | constant _ => false
  | routine _ r => r.form.readsPart

end Declared

namespace Class

def own? (c : Class) (name : String) : Option Declared :=
  ((Table.get? c.constants name).map .constant).or
    ((c.declarations.find? (·.name = name)).map fun d => .routine d.owner d.routine)

/-- What a class or the nearest class above it declares under a name. -/
def declared? (c : Class) (name : String) : Option Declared :=
  c.lineage.findSome? (·.own? name)

def directory (c : Class) : List (String × Value) :=
  c.constants ++ c.declarations.map fun d => (d.name, d.routine.heldBy d.owner c)

/-- Whether a class keeps notes on types, if only empty ones. -/
def keepsAnnotations (c : Class) : Bool :=
  c.module?.isSome && c.notesModule && c ≠ decimal && c ≠ lock

def bases (c : Class) : List Class :=
  match c with
  | members .float _ => [float, enum]
  | other "enum" "IntEnum" => [int, other "enum" "ReprEnum"]
  | other "enum" "StrEnum" => [text, other "enum" "ReprEnum"]
  | other "collections.abc" "Collection" => (c.lineage.drop 1).take 3
  | c => c.lineage[1]?.toList

def description? (c : Class) (name : String) : Option Value :=
  match name with
  | "__class__" => some (.kind c.above)
  | "__name__" | "__qualname__" => some (.text c.name)
  | "__module__" => some (.text (c.module?.getD "builtins"))
  | "__doc__" => some c.description.value
  | "__text_signature__" => some (.textOrNull c.signature?)
  | "__mro__" => some (.tuple (c.lineage.map .kind))
  | "__base__" => some (c.bases.head?.elim .null .kind)
  | "__bases__" => some (.tuple (c.bases.map .kind))
  | "__dict__" => some (.dict true (c.directory.map fun entry => (.text entry.1, entry.2)))
  | "__basicsize__" | "__dictoffset__" | "__flags__" | "__itemsize__" | "__weakrefoffset__" =>
      some (((c.layout?.bind (·.part? name)).map Value.int).getD (.unknown .int))
  | "__abstractmethods__" => Table.get? c.constants name
  | "__annotations__" =>
      if c.keepsAnnotations then
        some ((Table.get? c.constants name).getD (.directory []))
      else none
  | "__members__" => if c.isEnumeration then some (.dict true []) else none
  | "__signature__" =>
      if c.above = modelKind then some (.unknown (other "inspect" "Signature")) else none
  | "__fields__" =>
      if c.above = modelKind then Table.get? c.constants "__pydantic_fields__" else none
  | "__pydantic_fields_complete__" =>
      if c.above = modelKind then some (.flag true) else none
  | _ => none

/-- The value that a class makes when it is called with nothing, unless it needs more. -/
def emptyValue? : Class → Option Value
  | object => some (.unknown object)
  | null => some .null
  | flag => some (.flag false)
  | int => some (.int 0)
  | float => some (.scalar (.float (.zero false)))
  | text => some (.text "")
  | bytes => some (.scalar (.bytes []))
  | tuple => some (.tuple [])
  | list => some (.list [])
  | set => some (.set false [])
  | frozenSet => some (.set true [])
  | dict => some (.dict false [])
  | time => some (.scalar (.time ⟨0, 0, 0, 0, none⟩))
  | decimal => some (.scalar (.decimal (.finite false 0 0)))
  | data name [] => some (.data name [] [])
  | named name [] => some (.named name [])
  | _ => none

def attribute? (c : Class) (name : String) : Option Value :=
  let provided := c.above.declared? name
  (c.description? name).or <|
    if provided.any (·.readsPart) then none
    else ((c.declared? name).map (·.heldBy c)).or (provided.bind (·.readFrom (.kind c) c.above))

end Class

end CachePolicy
