import CachePolicy.Backend.Memory
import CachePolicy.Log.Row
import CachePolicy.Value.Shown
import CachePolicy.Value.Truth

/-!
# Remote backends

A backend that keeps serialized values in a remote store.  Left to itself the store is
a table of records; a single request may instead be answered by a given reply, which
leaves the table as it is.  A read that the store fails makes the lookup unavailable;
every other failure of a request is passed on.
-/

namespace CachePolicy

inductive StoreRequest where
  | get (key : String)
  | set (key : String) (value expiry : Value)
  | delete (key : String)
  | close

inductive StoreReply where
  | fails (failure : Failure)
  | gives (value : Value)
  | octets (raw : List UInt8)

/-- The replies that requests of each kind get instead of the answer of the table. -/
structure StoreScript where
  get? : Option StoreReply
  set? : Option StoreReply
  delete? : Option StoreReply
  close? : Option StoreReply

def StoreScript.none : StoreScript := ⟨.none, .none, .none, .none⟩

/-- How values become the records that a store keeps, and how they come back. -/
structure Serializer (ρ : Type) where
  dump : Value → Except Fault ρ
  load : ρ → Except Fault Value

structure RemoteBackend (ρ : Type) where
  asynchronous : Bool
  keyPrefix : String
  entries : Table String ρ

/-- What a request did: its result, the backend behind it, the requests that reached the store
and the rows that were logged. -/
structure Performed (σ α : Type) where
  result : Except Fault α
  backend : σ
  requests : List StoreRequest
  rows : List LogRow

def Performed.map {σ τ α β : Type} (p : Performed σ α) (f : σ → τ) (g : α → β) :
    Performed τ β where
  result := p.result.map g
  backend := f p.backend
  requests := p.requests
  rows := p.rows

/-! ## Serialization -/

mutual

/-- The first part of a value that cannot be serialized. -/
def Value.unserializable? : Value → Option String
  | .scalar .lock => some "_thread.lock"
  | .scalar (.handle _) => some "_thread.lock"
  | .scalar _ => none
  | .dict true _ => some "mappingproxy"
  | .dict false entries => unserializableEntries? entries
  | .list items | .tuple items | .set _ items => unserializableItems? items
  | .member _ _ _ value => value.unserializable?
  | .data _ fields _ | .named _ fields => unserializableFields? fields
  | .object _ attributes _ _ _ => unserializableFields? attributes
  | .lookup _ value => value.unserializable?
  | .pattern p => p.unserializable?
  | .known cls _ => some cls.name
  | .refusing _ value => value.unserializable?

def Pattern.unserializable? : Pattern → Option String
  | .any | .abstract => none
  | .exact value => value.unserializable?
  | .shape elements => unserializablePatterns? elements
  | .record _ fields => unserializableMatchers? fields

def unserializableItems? : List Value → Option String
  | [] => none
  | v :: rest => v.unserializable?.or (unserializableItems? rest)

def unserializableEntries? : List (Value × Value) → Option String
  | [] => none
  | (k, v) :: rest =>
      k.unserializable?.or (v.unserializable?.or (unserializableEntries? rest))

def unserializableFields? : List (String × Value) → Option String
  | [] => none
  | (_, v) :: rest => v.unserializable?.or (unserializableFields? rest)

def unserializablePatterns? : List Pattern → Option String
  | [] => none
  | p :: rest => p.unserializable?.or (unserializablePatterns? rest)

def unserializableMatchers? : List (String × Pattern) → Option String
  | [] => none
  | (_, p) :: rest => p.unserializable?.or (unserializableMatchers? rest)

end

/-- Keeps a value as it is, if it can be serialized at all. -/
def Serializer.plain : Serializer Value where
  dump value :=
    match value.unserializable? with
    | some kind => .error (.unserializable kind)
    | none => .ok value
  load := .ok

/-- Octets that no serialization starts with are refused by their first one. -/
def unreadable : List UInt8 → Fault
  | [] => .storedNothing
  | first :: _ => .storedGarbage first

/-! ## Requests -/

namespace RemoteBackend

variable {ρ : Type}

def empty (asynchronous : Bool) (name : String) : RemoteBackend ρ :=
  ⟨asynchronous, namespacePrefix name, []⟩

def readFailedRow (key : String) (failure : Failure) : LogRow :=
  ⟨.debug, "Redis GET failed for " ++ key ++ ": " ++ failure.message, none, none⟩

def get (b : RemoteBackend ρ) (z : Serializer ρ) (reply : Option StoreReply) (key : String) :
    Performed (RemoteBackend ρ) Lookup :=
  let place := b.keyPrefix ++ key
  let performed (result : Except Fault Lookup) (rows : List LogRow) :
      Performed (RemoteBackend ρ) Lookup := ⟨result, b, [.get place], rows⟩
  match reply with
  | none =>
      performed (match b.entries.get? place with
        | some record => (z.load record).map .hit
        | none => .ok .miss) []
  | some (.fails failure) =>
      if failure.kind.isStore then performed (.ok .unavailable) [readFailedRow key failure]
      else performed (.error (.outside failure)) []
  | some (.gives .null) => performed (.ok .miss) []
  | some (.gives (.scalar (.bytes raw))) | some (.gives (.scalar (.buffer raw)))
  | some (.octets raw) => performed (.error (unreadable raw)) []
  | some (.gives v) => performed (.error (.storedValue v.ownClass.complaintName)) []

/-- A value is serialized before the store is asked. -/
def put (b : RemoteBackend ρ) (z : Serializer ρ) (reply : Option StoreReply) (key : String)
    (value : Value) (options : Table String Value) : Performed (RemoteBackend ρ) Bool :=
  match z.dump value with
  | .error fault => ⟨.error fault, b, [], []⟩
  | .ok record =>
      let place := b.keyPrefix ++ key
      let requests := [StoreRequest.set place value ((options.get? "ttl").getD .null)]
      match reply with
      | none => ⟨.ok true, { b with entries := b.entries.put place record }, requests, []⟩
      | some (.fails failure) => ⟨.error (.outside failure), b, requests, []⟩
      | some (.gives answer) => ⟨answer.truth, b, requests, []⟩
      | some (.octets raw) => ⟨.ok !raw.isEmpty, b, requests, []⟩

def delete (b : RemoteBackend ρ) (reply : Option StoreReply) (key : String) :
    Performed (RemoteBackend ρ) Bool :=
  let place := b.keyPrefix ++ key
  let requests := [StoreRequest.delete place]
  match reply with
  | none => ⟨.ok true, { b with entries := b.entries.erase place }, requests, []⟩
  | some (.fails failure) => ⟨.error (.outside failure), b, requests, []⟩
  | some _ => ⟨.ok true, b, requests, []⟩

def close (b : RemoteBackend ρ) (reply : Option StoreReply) : Performed (RemoteBackend ρ) Unit :=
  match reply with
  | some (.fails failure) => ⟨.error (.outside failure), b, [.close], []⟩
  | _ => ⟨.ok (), b, [.close], []⟩

end RemoteBackend

end CachePolicy
