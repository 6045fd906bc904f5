import CachePolicy.Value.Attribute

/-!
# Lookups

The outcome of a read from a backend.  A backend may also answer with a bare value,
which counts as a hit, or with null, which counts as a miss.
-/

namespace CachePolicy

structure Lookup where
  status : StatusMark
  value : Value

namespace Lookup

def hit (value : Value) : Lookup := ⟨.known .hit, value⟩

def miss : Lookup := ⟨.known .miss, .null⟩

def unavailable : Lookup := ⟨.known .unavailable, .null⟩

def toValue (l : Lookup) : Value := .lookup l.status l.value

def ofReply : Value → Lookup
  | .lookup status value => ⟨status, value⟩
  | .null => miss
  | v => hit v

/-- A hit carrying null is not found, and neither is a status that is only spelled as a hit. -/
def found (l : Lookup) : Bool := isFound l.status l.value

def isUnavailable (l : Lookup) : Bool := l.status = .known .unavailable

@[simp] theorem ofReply_toValue (l : Lookup) : ofReply l.toValue = l := rfl

end Lookup

end CachePolicy
