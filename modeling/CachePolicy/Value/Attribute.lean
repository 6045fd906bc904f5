import CachePolicy.Value.Attribute.Declared
import CachePolicy.Value.Attribute.Part

/-!
# Attributes of values

What is read from a value by name: a part of it, or else what its class declares under
that name.  From a mapping its items are read instead.
-/

namespace CachePolicy

namespace Value

/-- What is read from a value by name, if there is such an attribute. -/
def attribute? (v : Value) (name : String) : Except Fault (Option Value) :=
  match v.refused? (.attribute name), v.bare with
  | some refusal, _ => .error (.readRefused refusal)
  | none, scalar (.kind c) => .ok (c.attribute? name)
  | none, _ =>
      .ok (if name = "__class__" then some (.kind v.ownClass)
        else (v.part? name).or ((v.ownClass.declared? name).bind (·.readFrom v v.ownClass)))

/-- The complaint about an attribute that is missing.  The classes of some classes name only the
attribute. -/
def lack (v : Value) (name : String) : Fault :=
  match v.bare with
  | scalar (.kind c) =>
      if c.above = .enumKind || c.above = .modelKind then .nameUnknown name
      else .classAttributeMissing c.complaintName name
  | v => .attributeMissing v.ownClass.complaintName name

/-- The entries of a mapping.  None are known of one of which only the class is. -/
def entries? : Value → Option (List (Value × Value))
  | dict _ entries => some entries
  | known c _ => if c.isBelow .mapping then some [] else none
  | refusing _ value => value.entries?
  | _ => none

/-- What is read from a value by name: an item of a mapping, else an attribute. -/
def field? (v : Value) (name : String) : Except Fault (Option Value) :=
  match v.entries?, v.refused? (.item name) with
  | some _, some refusal => .error (.readRefused refusal)
  | some entries, none =>
      .ok ((entries.find? fun entry => entry.1.sameKey (.text name)).map (·.2))
  | none, _ => v.attribute? name

end Value

end CachePolicy
