import CachePolicy.Backend.Lookup
import CachePolicy.Table

/-!
# Memory backends

A backend that keeps values in a table under the key with its prefix.  Options of a
write are not looked at, and nothing expires.
-/

namespace CachePolicy

/-- A namespace that is not empty stands in front of every key, with a colon behind it. -/
def namespacePrefix (name : String) : String := if name = "" then "" else name ++ ":"

structure MemoryBackend where
  keyPrefix : String
  entries : Table String Value

namespace MemoryBackend

def empty (name : String) : MemoryBackend := ⟨namespacePrefix name, []⟩

def get (b : MemoryBackend) (key : String) : Lookup :=
  match b.entries.get? (b.keyPrefix ++ key) with
  | some value => .hit value
  | none => .miss

def put (b : MemoryBackend) (key : String) (value : Value) : MemoryBackend :=
  { b with entries := b.entries.put (b.keyPrefix ++ key) value }

def delete (b : MemoryBackend) (key : String) : MemoryBackend :=
  { b with entries := b.entries.erase (b.keyPrefix ++ key) }

def clear (b : MemoryBackend) : MemoryBackend := { b with entries := [] }

def contains (b : MemoryBackend) (key : String) : Bool :=
  b.entries.contains (b.keyPrefix ++ key)

def size (b : MemoryBackend) : Nat := b.entries.length

end MemoryBackend

end CachePolicy
