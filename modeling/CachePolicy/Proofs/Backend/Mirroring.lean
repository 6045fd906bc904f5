import CachePolicy.Proofs.Memory.Site
import CachePolicy.Proofs.Table

/-!
# Remote backends as mirrors of a memory backend

A remote backend mirrors a memory backend when its store holds the records of the same
values under the same keys.  Every request is then answered alike and leaves a mirror
behind, as long as the values that are put come back from their records.  This does not
depend on whether the answers of the remote backend are awaited.
-/

namespace CachePolicy

variable {ρ ω : Type}

/-! ## Records -/

namespace Serializer

variable {z : Serializer ρ} {record : ρ} {value : Value}

def RoundTrips (z : Serializer ρ) (value : Value) : Prop :=
  (z.dump value >>= z.load) = .ok value

structure Keeps (z : Serializer ρ) (record : ρ) (value : Value) : Prop where
  dumped : z.dump value = .ok record
  loaded : z.load record = .ok value

theorem roundTrips_iff : z.RoundTrips value ↔ ∃ record, z.Keeps record value := by
  unfold RoundTrips
  cases dumped : z.dump value with
  | error fault =>
      constructor
      · intro trip
        cases trip
      · rintro ⟨record, ⟨dumps, -⟩⟩
        simp [dumped] at dumps
  | ok record =>
      constructor
      · intro trip
        exact ⟨record, dumped, trip⟩
      · rintro ⟨other, keeps⟩
        obtain rfl : record = other := Except.ok.inj (dumped.symm.trans keeps.dumped)
        exact keeps.loaded

end Serializer

/-! ## Answers -/

namespace RemoteBackend

/-- The store answers every request itself. -/
def answer (z : Serializer ρ) (request : Request) (b : RemoteBackend ρ) :
    Except Fault Value × RemoteBackend ρ :=
  match request with
  | .get _ key =>
      let p := b.get z none key
      (p.result.map Lookup.toValue, p.backend)
  | .put _ key value options =>
      let p := b.put z none key value options
      (p.result.map .flag, p.backend)
  | .delete _ key =>
      let p := b.delete none key
      (p.result.map .flag, p.backend)

/-- Behind a recorder the answers are the same, at once or awaited. -/
theorem perform_eq_answer (request : Request) (b : RemoteBackend Value)
    (requests : List Request) (storeRequests : List StoreRequest) :
    let recorded : RecordedBackend := ⟨.remote b, .none, requests, storeRequests⟩
    let performed := recorded.perform .none .none request
    recorded.defers .none request = b.asynchronous ∧
      recorded.settle .none .none request = performed ∧
      performed.1 = (b.answer .plain request).1 ∧
      performed.2.1.backend = .remote (b.answer .plain request).2 := by
  cases request <;> exact ⟨Bool.and_true _, rfl, rfl, rfl⟩

/-! ## Mirrors -/

structure Mirrors (z : Serializer ρ) (r : RemoteBackend ρ) (m : MemoryBackend) : Prop where
  samePrefix : r.keyPrefix = m.keyPrefix
  entries : Table.Alike z.Keeps r.entries m.entries

variable {z : Serializer ρ} {r : RemoteBackend ρ} {m : MemoryBackend} {key : String}
  {value : Value}

theorem mirrors_empty (z : Serializer ρ) (asynchronous : Bool) (name : String) :
    (empty asynchronous name).Mirrors z (.empty name) where
  samePrefix := rfl
  entries := .nil

theorem Mirrors.get (mirrors : r.Mirrors z m) (key : String) :
    (r.get z none key).result = .ok (m.get key) := by
  simp only [RemoteBackend.get, MemoryBackend.get, mirrors.samePrefix]
  have held := mirrors.entries.get? (m.keyPrefix ++ key)
  generalize r.entries.get? _ = record?, m.entries.get? _ = value? at held ⊢
  cases held with
  | none => rfl
  | some keeps => simp only [keeps.loaded, Except.map]

theorem Mirrors.put (mirrors : r.Mirrors z m) (trips : z.RoundTrips value) (key : String)
    (options : Table String Value) :
    (r.put z none key value options).result = .ok true ∧
      (r.put z none key value options).backend.Mirrors z (m.put key value) := by
  obtain ⟨record, keeps⟩ := Serializer.roundTrips_iff.mp trips
  simp only [RemoteBackend.put, keeps.dumped, mirrors.samePrefix, true_and]
  exact ⟨rfl, mirrors.entries.put _ keeps⟩

theorem Mirrors.delete (mirrors : r.Mirrors z m) (key : String) :
    (r.delete none key).result = .ok true ∧
      (r.delete none key).backend.Mirrors z (m.delete key) := by
  simp only [RemoteBackend.delete, mirrors.samePrefix, true_and]
  exact ⟨rfl, mirrors.entries.erase _⟩

theorem Mirrors.answer {s : Site ω} {request : Request} (mirrors : r.Mirrors z s.store)
    (trips : ∀ config key value options, request = .put config key value options →
      z.RoundTrips value) :
    (r.answer z request).1 = .ok (s.answer request).1 ∧
      (r.answer z request).2.Mirrors z (s.answer request).2.store := by
  cases request with
  | get config key =>
      have found := mirrors.get key
      exact ⟨by simp only [RemoteBackend.answer, found]; rfl, mirrors⟩
  | put config key value options =>
      obtain ⟨done, mirrors⟩ := mirrors.put (trips _ _ _ _ rfl) key options
      exact ⟨by simp only [RemoteBackend.answer, done]; rfl, mirrors⟩
  | delete config key =>
      obtain ⟨done, mirrors⟩ := mirrors.delete key
      exact ⟨by simp only [RemoteBackend.answer, done]; rfl, mirrors⟩

end RemoteBackend

/-! ## Sequences of requests -/

/-- The answer to each request and the state behind it. -/
def transcript {σ α : Type} (answer : Request → σ → α × σ) : List Request → σ → List (α × σ)
  | [], _ => []
  | request :: rest, s => answer request s :: transcript answer rest (answer request s).2

namespace RemoteBackend

theorem Mirrors.transcript {z : Serializer ρ} {requests : List Request} {r : RemoteBackend ρ}
    {s : Site ω} (mirrors : r.Mirrors z s.store)
    (trips : ∀ config key value options, .put config key value options ∈ requests →
      z.RoundTrips value) :
    List.Forall₂ (fun remote memory => remote.1 = .ok memory.1 ∧ remote.2.Mirrors z memory.2.store)
      (transcript (RemoteBackend.answer z) requests r) (transcript Site.answer requests s) := by
  induction requests generalizing r s with
  | nil => exact .nil
  | cons request rest ih =>
      have first := mirrors.answer fun config key value options same =>
        trips config key value options (same ▸ List.mem_cons_self)
      refine .cons first (ih first.2 ?_)
      exact fun config key value options member =>
        trips config key value options (List.mem_cons_of_mem _ member)

/-- Both kinds of remote backends answer like the memory backend, whatever is done between. -/
theorem remote_mirrors_memory (z : Serializer ρ) (name : String) (world : ω)
    (requests : List Request)
    (trips : ∀ config key value options, .put config key value options ∈ requests →
      z.RoundTrips value) (asynchronous : Bool) :
    List.Forall₂ (fun remote memory => remote.1 = .ok memory.1 ∧ remote.2.Mirrors z memory.2.store)
      (transcript (RemoteBackend.answer z) requests (empty asynchronous name))
      (transcript Site.answer requests ⟨.empty name, world⟩) :=
  Mirrors.transcript (mirrors_empty z asynchronous name) trips

/-! ## A stored null -/

/-- Records of null, of flags and of numbers that fit into one octet. -/
def octets : Serializer (List UInt8) where
  dump
    | .null => .ok [0x80, 0x04, 0x4e, 0x2e]
    | .flag true => .ok [0x80, 0x04, 0x88, 0x2e]
    | .flag false => .ok [0x80, 0x04, 0x89, 0x2e]
    | .int (.ofNat n) =>
        if n < 256 then .ok [0x80, 0x04, 0x4b, .ofNat n, 0x2e]
        else .error (.unserializable "int")
    | _ => .error (.unserializable "object")
  load
    | [0x80, 0x04, 0x4e, 0x2e] => .ok .null
    | [0x80, 0x04, 0x88, 0x2e] => .ok (.flag true)
    | [0x80, 0x04, 0x89, 0x2e] => .ok (.flag false)
    | [0x80, 0x04, 0x4b, octet, 0x2e] => .ok (.int octet.toNat)
    | raw => .error (unreadable raw)

/-- A null is stored and found, overwritten, and stays when another key is deleted. -/
theorem remote_mirrors_memory_stored_null :
    let requests : List Request :=
      [.put .null "a" .null [("ttl", .int 300)], .get .null "a", .put .null "a" (.int 7) [],
        .delete .null "app:a", .get .null "a", .get .null "b"]
    let remote := transcript (RemoteBackend.answer octets) requests (empty true "app")
    let memory := transcript Site.answer requests (⟨.empty "app", ()⟩ : Site Unit)
    (∀ config key value options, .put config key value options ∈ requests →
        octets.RoundTrips value) ∧
      List.Forall₂
        (fun remote memory => remote.1 = .ok memory.1 ∧ remote.2.Mirrors octets memory.2.store)
        remote memory ∧
      remote.map (·.1) = [.ok (.flag true), .ok (Lookup.hit .null).toValue, .ok (.flag true),
        .ok (.flag true), .ok (Lookup.hit (.int 7)).toValue, .ok Lookup.miss.toValue] ∧
      remote.getLast?.map (·.2.entries) = some [("app:a", [0x80, 0x04, 0x4b, 0x07, 0x2e])] := by
  intro requests remote memory
  have trips : ∀ config key value options, .put config key value options ∈ requests →
      octets.RoundTrips value := by
    intro config key value options member
    have put : value = .null ∨ value = .int 7 := by
      simp only [requests, List.mem_cons, Request.put.injEq, reduceCtorEq, List.not_mem_nil,
        false_or, or_false] at member
      exact member.imp (·.2.2.1) (·.2.2.1)
    rcases put with rfl | rfl <;> rfl
  exact ⟨trips, remote_mirrors_memory octets "app" () requests trips true, rfl, rfl⟩

end RemoteBackend

end CachePolicy
