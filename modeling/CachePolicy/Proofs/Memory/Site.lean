import CachePolicy.Proofs.Interception.Policy
import CachePolicy.Session.Basic
import Mathlib.Logic.Function.Basic

/-!
# Calls on one memory backend

A site is a memory backend together with the world that the bodies of operations read
and change.  A call carries an interception out on a site: requests go to the backend,
and the body sees nothing but the world.
-/

namespace CachePolicy

structure Site (ω : Type) where
  store : MemoryBackend
  world : ω

structure Call (ω : Type) where
  operation : Operation
  style : CallStyle
  bindings : Bindings
  config : Value
  body : ω → Except Fault Value × ω

/-! ## Memory backends -/

namespace MemoryBackend

/-- The value that a read of a key is a hit with. -/
def Recalls (b : MemoryBackend) (key : String) (value : Value) : Prop :=
  b.entries.get? (b.keyPrefix ++ key) = some value ∧ value ≠ .null

variable {b : MemoryBackend} {key : String}

theorem hit_get_iff {value : Value} : Hit (b.get key).toValue value ↔ b.Recalls key value := by
  rw [← Lookup.found_ofReply_iff, Lookup.ofReply_toValue]
  unfold get Recalls
  cases held : b.entries.get? (b.keyPrefix ++ key) with
  | none => simp [Lookup.miss, Lookup.found, isFound]
  | some stored =>
      simp only [Lookup.hit, Lookup.found, isFound, Option.some.injEq, decide_true, Bool.true_and,
        Bool.not_eq_true', isNull_eq_false_iff]
      constructor
      · rintro ⟨something, rfl⟩
        exact ⟨rfl, something⟩
      · rintro ⟨rfl, something⟩
        exact ⟨something, rfl⟩

theorem not_unavailable_get : ¬ Unavailable (b.get key).toValue := by
  rw [← Lookup.isUnavailable_ofReply_iff, Lookup.ofReply_toValue]
  unfold get
  split <;> simp [Lookup.hit, Lookup.miss, Lookup.isUnavailable]

def held (b : MemoryBackend) (key : String) : Option Value := b.entries.get? (b.keyPrefix ++ key)

theorem held_put (b : MemoryBackend) (key : String) (value : Value) :
    (b.put key value).held = Function.update b.held key (some value) := by
  funext other
  by_cases same : other = key
  · subst same
    simp [held, put]
  · have apart : b.keyPrefix ++ key ≠ b.keyPrefix ++ other := fun places =>
      same ((String.append_right_inj _).mp places).symm
    simp [held, put, Function.update_of_ne same, Table.get?_put_of_ne _ _ apart]

theorem held_delete (b : MemoryBackend) (key : String) :
    (b.delete key).held = Function.update b.held key none := by
  funext other
  by_cases same : other = key
  · subst same
    simp [held, delete]
  · have apart : b.keyPrefix ++ key ≠ b.keyPrefix ++ other := fun places =>
      same ((String.append_right_inj _).mp places).symm
    simp [held, delete, Function.update_of_ne same, Table.get?_erase_of_ne _ apart]

end MemoryBackend

namespace Site

variable {ω : Type}

/-- A memory backend answers every request at once. -/
def answer (request : Request) (s : Site ω) : Value × Site ω :=
  match request with
  | .get _ key => ((s.store.get key).toValue, s)
  | .put _ key value _ => (.flag true, { s with store := s.store.put key value })
  | .delete _ key => (.flag true, { s with store := s.store.delete key })

def clear (s : Site ω) : Site ω := { s with store := s.store.clear }

def handler (body : ω → Except Fault Value × ω) : Handler (Site ω) where
  log _ s := s
  ask request s := (.ok (.value (s.answer request).1), (s.answer request).2)
  await request s := (.ok (s.answer request).1, (s.answer request).2)
  run s := ((body s.world).1, { s with world := (body s.world).2 })

theorem handler_answersAtOnce (body : ω → Except Fault Value × ω) :
    (handler body).AnswersAtOnce := by
  intro request s
  simp [handler]

theorem handler_failsCatchably (body : ω → Except Fault Value × ω) :
    (handler body).FailsCatchably := by
  intro request s fault failed
  simp [handler] at failed

/-- Behind a recorder, too, a memory backend gives these answers. -/
theorem answer_eq_perform (request : Request) (s : Site ω) (pending : PendingMethods)
    (requests : List Request) (storeRequests : List StoreRequest) :
    RecordedBackend.perform ⟨.memory s.store, pending, requests, storeRequests⟩ .none .none
        request =
      (.ok (s.answer request).1,
        ⟨.memory (s.answer request).2.store, pending, requests, storeRequests⟩, []) := by
  conv => rhs; rw [← List.append_nil storeRequests]
  cases request <;> rfl

end Site

/-! ## Calls -/

namespace Call

variable {ω : Type}

def key (c : Call ω) : Except Fault String := c.operation.key.render c.bindings

def program (c : Call ω) : Program := c.operation.interception c.style c.bindings c.config

def perform (c : Call ω) (s : Site ω) : Except Fault Value × Site ω :=
  c.program.exec (Site.handler c.body) s

def runs (c : Call ω) (s : Site ω) : List (Except Fault Value) :=
  Effect.runs (c.program.trace (Site.handler c.body) s)

/-- The body runs, and a value that passes the guard leads on from the site that it leaves. -/
inductive Judges (c : Call ω) (s : Site ω)
    (Passed : Value → Site ω → Except Fault Value → Site ω → Prop) :
    List (Except Fault Value) → Except Fault Value → Site ω → Prop
  | raised {fault : Fault} {world : ω} (ran : c.body s.world = (.error fault, world)) :
      Judges c s Passed [.error fault] (.error fault) ⟨s.store, world⟩
  | undecided {value : Value} {fault : Fault} {world : ω}
      (ran : c.body s.world = (.ok value, world))
      (guard : c.operation.guard.holds value = .error fault) :
      Judges c s Passed [.ok value] (.error fault) ⟨s.store, world⟩
  | skipped {value : Value} {world : ω} (ran : c.body s.world = (.ok value, world))
      (guard : c.operation.guard.holds value = .ok false) :
      Judges c s Passed [.ok value] (.ok value) ⟨s.store, world⟩
  | passed {value : Value} {world : ω} {result : Except Fault Value} {after : Site ω}
      (ran : c.body s.world = (.ok value, world))
      (guard : c.operation.guard.holds value = .ok true)
      (rest : Passed value ⟨s.store, world⟩ result after) :
      Judges c s Passed [.ok value] result after

inductive Stores (key : String) (value : Value) (s : Site ω) :
    Except Fault Value → Site ω → Prop
  | mk : Stores key value s (.ok value) ⟨s.store.put key value, s.world⟩

/-- What a cached call does: how often its body ran, how it ended, and what it left behind. -/
inductive Reads (c : Call ω) (s : Site ω) :
    List (Except Fault Value) → Except Fault Value → Site ω → Prop
  | unrendered {fault : Fault} (rendered : c.key = .error fault) : Reads c s [] (.error fault) s
  | recalled {key : String} {value : Value} (rendered : c.key = .ok key)
      (held : s.store.Recalls key value) : Reads c s [] (.ok value) s
  | missed {key : String} {runs : List (Except Fault Value)} {result : Except Fault Value}
      {after : Site ω} (rendered : c.key = .ok key)
      (nothing : ∀ value, ¬ s.store.Recalls key value)
      (rest : c.Judges s (Stores key) runs result after) : Reads c s runs result after

inductive Deletes (c : Call ω) (value : Value) (s : Site ω) :
    Except Fault Value → Site ω → Prop
  | unrendered {fault : Fault} (rendered : c.key = .error fault) :
      Deletes c value s (.error fault) s
  | mk {key : String} (rendered : c.key = .ok key) :
      Deletes c value s (.ok value) ⟨s.store.delete key, s.world⟩

def Invalidates (c : Call ω) (s : Site ω) :
    List (Except Fault Value) → Except Fault Value → Site ω → Prop :=
  c.Judges s c.Deletes

variable {c : Call ω} {s after : Site ω} {effects : List Effect} {result : Except Fault Value}

theorem judges_of_run {row : LogRow}
    {Passed : Value → List Effect → Except Fault Value → Prop}
    {Passes : Value → Site ω → Except Fault Value → Site ω → Prop}
    (run : c.operation.GuardedRun row Passed effects result)
    (replays : (Site.handler c.body).Replays effects s after)
    (passes : ∀ {value effects result s}, Passed value effects result →
      (Site.handler c.body).Replays effects s after →
        Effect.runs effects = [] ∧ Passes value s result after) :
    c.Judges s Passes (Effect.runs effects) result after := by
  cases run with
  | raised fault =>
      obtain ⟨ran, rfl⟩ := replays
      exact .raised (Prod.ext ran rfl)
  | undecided guard =>
      obtain ⟨ran, rfl⟩ := replays
      exact .undecided (Prod.ext ran rfl) guard
  | skipped guard =>
      obtain ⟨ran, rfl⟩ := replays
      exact .skipped (Prod.ext ran rfl) guard
  | passed guard rest =>
      obtain ⟨ran, replays⟩ := replays
      obtain ⟨noRun, passed⟩ := passes rest replays
      rw [Effect.runs_cons, noRun]
      exact .passed (Prod.ext ran rfl) guard passed

theorem stores_of_run {config value : Value} {key : String} {options : Table String Value}
    (run : c.operation.WriteRun .put (.put config key value options) key value effects result)
    (replays : (Site.handler c.body).Replays effects s after) :
    Effect.runs effects = [] ∧ Stores key value s result after := by
  cases run with
  | mk answer ends =>
      obtain ⟨asked, rfl⟩ := replays
      cases ends with
      | raised fault => cases asked
      | refused => cases asked
      | taken taken => exact ⟨rfl, .mk⟩

theorem deletes_of_run {value : Value}
    (run : c.operation.DeleteRun c.bindings c.config value effects result)
    (replays : (Site.handler c.body).Replays effects s after) :
    Effect.runs effects = [] ∧ c.Deletes value s result after := by
  cases run with
  | unrendered rendered =>
      obtain rfl := replays
      exact ⟨rfl, .unrendered rendered⟩
  | deleted rendered write =>
      cases write with
      | mk answer ends =>
          obtain ⟨asked, rfl⟩ := replays
          cases ends with
          | raised fault => cases asked
          | refused => cases asked
          | taken taken => exact ⟨rfl, .mk rendered⟩

theorem reads_of_run (run : c.operation.CacheRun c.bindings c.config effects result)
    (replays : (Site.handler c.body).Replays effects s after) :
    c.Reads s (Effect.runs effects) result after := by
  cases run with
  | unrendered rendered =>
      obtain rfl := replays
      exact .unrendered rendered
  | hit rendered isHit =>
      obtain ⟨asked, rfl⟩ := replays
      cases asked
      exact .recalled rendered (MemoryBackend.hit_get_iff.mp isHit)
  | readFailed rendered fault result =>
      obtain ⟨asked, -⟩ := replays
      cases asked
  | unavailable rendered down result =>
      obtain ⟨asked, -⟩ := replays
      cases asked
      exact absurd down MemoryBackend.not_unavailable_get
  | missed rendered noHit available rest =>
      obtain ⟨asked, replays⟩ := replays
      cases asked
      have nothing : ∀ value, ¬ s.store.Recalls _ value := fun value held =>
        noHit value (MemoryBackend.hit_get_iff.mpr held)
      have judged := judges_of_run rest replays stores_of_run
      exact .missed rendered nothing judged

theorem reads (c : Call ω) (s : Site ω) (caches : c.operation.mode = .cache) :
    c.Reads s (c.runs s) (c.perform s).1 (c.perform s).2 := by
  have follows := c.operation.interception_follows (Site.handler_answersAtOnce c.body)
    (Site.handler_failsCatchably c.body) c.style c.bindings c.config s
  simp only [caches] at follows
  exact reads_of_run follows (c.program.replays_trace _ s)

theorem invalidates (c : Call ω) (s : Site ω) (invalidates : c.operation.mode = .invalidate) :
    c.Invalidates s (c.runs s) (c.perform s).1 (c.perform s).2 := by
  have follows := c.operation.interception_follows (Site.handler_answersAtOnce c.body)
    (Site.handler_failsCatchably c.body) c.style c.bindings c.config s
  simp only [invalidates] at follows
  exact judges_of_run follows (c.program.replays_trace _ s) deletes_of_run

/-! ## Runs of the body -/

variable {runs : List (Except Fault Value)}

theorem Judges.ran {Passed : Value → Site ω → Except Fault Value → Site ω → Prop}
    (judges : c.Judges s Passed runs result after)
    (still : ∀ {value s result after}, Passed value s result after → after.world = s.world) :
    runs = [(c.body s.world).1] ∧ after.world = (c.body s.world).2 := by
  cases judges with
  | raised ran => simp [ran]
  | undecided ran guard => simp [ran]
  | skipped ran guard => simp [ran]
  | passed ran guard rest => simp [ran, still rest]

theorem Reads.ran (reads : c.Reads s runs result after) :
    (runs = [] ∧ after.world = s.world) ∨
      (runs = [(c.body s.world).1] ∧ after.world = (c.body s.world).2) := by
  cases reads with
  | unrendered rendered => exact .inl ⟨rfl, rfl⟩
  | recalled rendered held => exact .inl ⟨rfl, rfl⟩
  | missed rendered nothing rest => exact .inr (rest.ran fun (.mk) => rfl)

theorem Invalidates.ran (invalidates : c.Invalidates s runs result after) :
    runs = [(c.body s.world).1] ∧ after.world = (c.body s.world).2 := by
  refine Judges.ran invalidates fun deletes => ?_
  cases deletes <;> rfl

end Call

end CachePolicy
