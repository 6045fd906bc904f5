import CachePolicy.Address.Store
import CachePolicy.Backend.Remote
import CachePolicy.Text.Blank

/-!
# Backends

The backends that come with the library: one that stores nothing, one in memory, and
one over a remote store, with requests answered at once or awaited.
-/

namespace CachePolicy

inductive Backend where
  | null
  | memory (b : MemoryBackend)
  | remote (b : RemoteBackend Value)

namespace Backend

def name : Backend → String
  | null => "NullBackend"
  | memory _ => "InMemoryBackend"
  | remote b => if b.asynchronous then "AsyncRedisBackend" else "RedisBackend"

def keyPrefix? : Backend → Option String
  | null => none
  | memory b => some b.keyPrefix
  | remote b => some b.keyPrefix

/-- The key under which a backend keeps an entry. -/
def place? (b : Backend) (key : String) : Option String := b.keyPrefix?.map (· ++ key)

def entries? : Backend → Option (Table String Value)
  | null => none
  | memory b => some b.entries
  | remote b => some b.entries

def isAsynchronous : Backend → Bool
  | remote b => b.asynchronous
  | _ => false

/-! ## Requests -/

private def atOnce (result : Value) (b : Backend) : Performed Backend Value :=
  ⟨.ok result, b, [], []⟩

def get (b : Backend) (script : StoreScript) (key : String) : Performed Backend Value :=
  match b with
  | null => atOnce Lookup.miss.toValue null
  | memory m => atOnce (m.get key).toValue (memory m)
  | remote r => (r.get .plain script.get? key).map remote Lookup.toValue

def put (b : Backend) (script : StoreScript) (key : String) (value : Value)
    (options : Table String Value) : Performed Backend Value :=
  match b with
  | null => atOnce (.flag true) null
  | memory m => atOnce (.flag true) (memory (m.put key value))
  | remote r => (r.put .plain script.set? key value options).map remote .flag

def delete (b : Backend) (script : StoreScript) (key : String) : Performed Backend Value :=
  match b with
  | null => atOnce (.flag true) null
  | memory m => atOnce (.flag true) (memory (m.delete key))
  | remote r => (r.delete script.delete? key).map remote .flag

private def lacking (b : Backend) (method : String) : Performed Backend Value :=
  ⟨.error (.attributeMissing b.name method), b, [], []⟩

def clear (b : Backend) : Performed Backend Value :=
  match b with
  | memory m => atOnce .null (memory m.clear)
  | b => b.lacking "clear"

def contains (b : Backend) (key : String) : Performed Backend Value :=
  match b with
  | memory m => atOnce (.flag (m.contains key)) (memory m)
  | b => ⟨.error .unsupportedMeasure, b, [], []⟩

def size (b : Backend) : Performed Backend Value :=
  match b with
  | memory m => atOnce (.int m.size) (memory m)
  | b => ⟨.error .unsupportedMeasure, b, [], []⟩

def close (b : Backend) (script : StoreScript) : Performed Backend Value :=
  match b with
  | remote r =>
      if r.asynchronous then (r.close script.close?).map remote fun _ => .null
      else lacking (remote r) "close"
  | b => b.lacking "close"

/-! ## Construction -/

def connect (asynchronous : Bool) (url : Option String) (name : String) : Except Fault Backend :=
  match nonEmpty? url with
  | none => .error (.addressMissing asynchronous)
  | some url =>
      match StoreAddress.check asynchronous url with
      | .ok () => .ok (remote (.empty asynchronous name))
      | .error problem => .error (.addressInvalid problem)

def ofSettings (kind : Value) (url : Option String) (name : String) (asynchronous : Bool) :
    Except Fault Backend :=
  match kind.text? with
  | some "memory" => .ok (memory (.empty name))
  | some "null" => .ok null
  | some "redis" => connect asynchronous url name
  | _ => do throw (.unknownBackend (← kind.shown))

end Backend

end CachePolicy
