import CachePolicy.Proofs.Memory.Site
import Mathlib.Data.List.Induction

/-!
# What a memory backend recalls

The history of a site lists every event together with the site at which it happened.
What is held under a key is read off the history: it is the latest value that a cached
call stored there, unless a later event has superseded it.  A cached call is a hit
exactly when there is such a value and it is not null.
-/

namespace CachePolicy

variable {ω : Type}

/-! ## Histories -/

inductive Event (ω : Type) where
  | called (c : Call ω)
  | cleared

def Event.perform (event : Event ω) (s : Site ω) : Site ω :=
  match event with
  | called c => (c.perform s).2
  | cleared => s.clear

structure Occasion (ω : Type) where
  event : Event ω
  site : Site ω

namespace Site

def after (s : Site ω) (events : List (Event ω)) : Site ω :=
  events.foldl (fun s event => event.perform s) s

def occasions (s : Site ω) : List (Event ω) → List (Occasion ω)
  | [] => []
  | event :: rest => ⟨event, s⟩ :: (event.perform s).occasions rest

theorem after_snoc (s : Site ω) (events : List (Event ω)) (event : Event ω) :
    s.after (events ++ [event]) = event.perform (s.after events) := by
  simp [after]

theorem occasions_snoc (s : Site ω) (events : List (Event ω)) (event : Event ω) :
    s.occasions (events ++ [event]) = s.occasions events ++ [⟨event, s.after events⟩] := by
  induction events generalizing s with
  | nil => rfl
  | cons first rest ih =>
      rw [List.cons_append, occasions, occasions, ih, List.cons_append]
      rfl

end Site

/-! ## What an event does to a key -/

namespace Occasion

/-- A cached call of the key ran its body, and the value passed the guard. -/
inductive Stores : Occasion ω → String → Value → Prop
  | mk {c : Call ω} {s : Site ω} {key : String} {value : Value}
      (caches : c.operation.mode = .cache) (rendered : c.key = .ok key)
      (ran : .ok value ∈ c.runs s) (passed : c.operation.guard.holds value = .ok true) :
      Stores ⟨.called c, s⟩ key value

inductive Deletes : Occasion ω → String → Prop
  | mk {c : Call ω} {s : Site ω} {key : String} {value : Value}
      (invalidates : c.operation.mode = .invalidate) (rendered : c.key = .ok key)
      (ran : .ok value ∈ c.runs s) (passed : c.operation.guard.holds value = .ok true) :
      Deletes ⟨.called c, s⟩ key

inductive Supersedes : Occasion ω → String → Prop
  | stored {o : Occasion ω} {key : String} {value : Value} (stores : o.Stores key value) :
      Supersedes o key
  | deleted {o : Occasion ω} {key : String} (deletes : o.Deletes key) : Supersedes o key
  | cleared {s : Site ω} {key : String} : Supersedes ⟨.cleared, s⟩ key

/-- What an occasion can make of the store. -/
inductive Leaves : Occasion ω → MemoryBackend → Prop
  | stored {o : Occasion ω} {key : String} {value : Value} (stores : o.Stores key value) :
      Leaves o (o.site.store.put key value)
  | deleted {o : Occasion ω} {key : String} (deletes : o.Deletes key) :
      Leaves o (o.site.store.delete key)
  | cleared {s : Site ω} : Leaves ⟨.cleared, s⟩ s.store.clear
  | kept {o : Occasion ω} (still : ∀ key, ¬ o.Supersedes key) : Leaves o o.site.store

variable {o : Occasion ω} {c : Call ω} {s : Site ω} {key key' : String} {value value' : Value}

theorem Stores.unique (stores : o.Stores key value) (other : o.Stores key' value') :
    key' = key ∧ value' = value := by
  cases stores with
  | @mk c s key value caches rendered ran passed =>
      cases other with
      | mk _ rendered' ran' _ =>
          refine ⟨Except.ok.inj (rendered'.symm.trans rendered), ?_⟩
          rcases (c.reads s caches).ran with ⟨noRun, -⟩ | ⟨ranOnce, -⟩
          · simp [noRun] at ran
          · rw [ranOnce, List.mem_singleton] at ran ran'
            exact Except.ok.inj (ran'.trans ran.symm)

theorem Stores.supersedes_iff (stores : o.Stores key value) : o.Supersedes key' ↔ key' = key := by
  constructor
  · rintro (other | ⟨⟨invalidates⟩⟩ | _)
    · exact (stores.unique other).1
    · cases stores with
      | mk caches => simp [caches] at invalidates
    · cases stores
  · rintro rfl
    exact .stored stores

theorem Deletes.not_stores (deletes : o.Deletes key) : ¬ o.Stores key' value := by
  rintro ⟨caches⟩
  cases deletes with
  | mk invalidates => simp [caches] at invalidates

theorem Deletes.supersedes_iff (deletes : o.Deletes key) : o.Supersedes key' ↔ key' = key := by
  constructor
  · rintro (stores | other | _)
    · exact absurd stores deletes.not_stores
    · cases deletes with
      | mk _ rendered =>
          cases other with
          | mk _ rendered' => exact Except.ok.inj (rendered'.symm.trans rendered)
    · cases deletes
  · rintro rfl
    exact .deleted deletes

/-- A call that neither stores nor deletes supersedes nothing. -/
theorem not_supersedes (noStore : ∀ key value, ¬ Stores ⟨.called c, s⟩ key value)
    (noDelete : ∀ key, ¬ Deletes ⟨.called c, s⟩ key) (key : String) :
    ¬ Supersedes ⟨.called c, s⟩ key := by
  rintro (stores | deletes)
  · exact noStore _ _ stores
  · exact noDelete _ deletes

/-- Only a value that passes the guard changes the store. -/
theorem leaves_of_judges {Passed : Value → Site ω → Except Fault Value → Site ω → Prop}
    {runs : List (Except Fault Value)} {result : Except Fault Value} {after : Site ω}
    (judges : c.Judges s Passed runs result after)
    (still : (∀ value, .ok value ∈ runs → c.operation.guard.holds value ≠ .ok true) →
      Leaves ⟨.called c, s⟩ s.store)
    (onward : ∀ {value world}, .ok value ∈ runs → c.operation.guard.holds value = .ok true →
      Passed value ⟨s.store, world⟩ result after → Leaves ⟨.called c, s⟩ after.store) :
    Leaves ⟨.called c, s⟩ after.store := by
  cases judges with
  | raised ran => exact still (by simp)
  | undecided ran guard => exact still (by simp [guard])
  | skipped ran guard => exact still (by simp [guard])
  | passed ran guard rest => exact onward List.mem_cons_self guard rest

theorem leaves_of_reads (caches : c.operation.mode = .cache) :
    Leaves ⟨.called c, s⟩ (c.perform s).2.store := by
  have still (noStore : ∀ key value, c.key = .ok key → .ok value ∈ c.runs s →
      c.operation.guard.holds value ≠ .ok true) : Leaves ⟨.called c, s⟩ s.store := by
    refine .kept (not_supersedes ?_ ?_)
    · rintro key value ⟨-, rendered, ran, passed⟩
      exact noStore key value rendered ran passed
    · rintro key ⟨invalidates⟩
      simp [caches] at invalidates
  have reads := c.reads s caches
  generalize runs : c.runs s = outcomes at reads still
  generalize (c.perform s).1 = result at reads
  generalize (c.perform s).2 = after at reads
  cases reads with
  | unrendered rendered => exact still (by simp [rendered])
  | recalled rendered held => exact still (by simp)
  | missed rendered nothing rest =>
      refine leaves_of_judges rest (fun refused => still fun _ value _ => refused value) ?_
      rintro value world ran guard ⟨⟩
      rw [← runs] at ran
      exact .stored (.mk caches rendered ran guard)

theorem leaves_of_invalidates (invalidates : c.operation.mode = .invalidate) :
    Leaves ⟨.called c, s⟩ (c.perform s).2.store := by
  have still (noDelete : ∀ key value, c.key = .ok key → .ok value ∈ c.runs s →
      c.operation.guard.holds value ≠ .ok true) : Leaves ⟨.called c, s⟩ s.store := by
    refine .kept (not_supersedes ?_ ?_)
    · rintro key value ⟨caches⟩
      simp [invalidates] at caches
    · rintro key ⟨-, rendered, ran, passed⟩
      exact noDelete key _ rendered ran passed
  refine leaves_of_judges (c.invalidates s invalidates)
    (fun refused => still fun _ value _ => refused value) ?_
  intro value world ran guard deletes
  generalize (c.perform s).1 = result at deletes
  generalize (c.perform s).2 = after at deletes
  cases deletes with
  | unrendered rendered => exact still (by simp [rendered])
  | mk rendered => exact .deleted (.mk invalidates rendered ran guard)

theorem leaves (o : Occasion ω) : o.Leaves (o.event.perform o.site).store := by
  obtain ⟨event, s⟩ := o
  cases event with
  | cleared => exact .cleared
  | called c =>
      cases mode : c.operation.mode with
      | cache => exact leaves_of_reads mode
      | invalidate => exact leaves_of_invalidates mode

/-- One step of the history, key by key. -/
theorem Leaves.held_iff {store : MemoryBackend} (leaves : o.Leaves store) :
    store.held key = some value ↔
      o.Stores key value ∨ (¬ o.Supersedes key ∧ o.site.store.held key = some value) := by
  cases leaves with
  | @stored o place stored stores =>
      rw [MemoryBackend.held_put, stores.supersedes_iff]
      by_cases same : key = place
      · subst same
        simp only [Function.update_self, Option.some.injEq, not_true, false_and, or_false]
        exact ⟨fun same => same ▸ stores, fun other => (stores.unique other).2.symm⟩
      · have elsewhere : ¬ o.Stores key value := fun other => same (stores.unique other).1
        simp [same, elsewhere]
  | @deleted o place deletes =>
      rw [MemoryBackend.held_delete, deletes.supersedes_iff]
      by_cases same : key = place
      · subst same
        simp [deletes.not_stores]
      · simp [same, deletes.not_stores]
  | @cleared s =>
      have noStore : ¬ Stores ⟨.cleared, s⟩ key value := nofun
      have superseded : Supersedes ⟨.cleared, s⟩ key := .cleared
      simp [noStore, superseded, MemoryBackend.held, MemoryBackend.clear]
  | kept still =>
      have noStore : ¬ o.Stores key value := fun stores => still key (.stored stores)
      simp [still key, noStore]

end Occasion

/-! ## The latest value of a key -/

def Latest (history : List (Occasion ω)) (key : String) (value : Value) : Prop :=
  ∃ before o later, history = before ++ o :: later ∧ o.Stores key value ∧
    ∀ other ∈ later, ¬ other.Supersedes key

theorem latest_snoc_iff {history : List (Occasion ω)} {o : Occasion ω} {key : String}
    {value : Value} :
    Latest (history ++ [o]) key value ↔
      o.Stores key value ∨ (¬ o.Supersedes key ∧ Latest history key value) := by
  constructor
  · rintro ⟨before, first, later, split, stores, still⟩
    rcases List.eq_nil_or_concat later with rfl | ⟨later, last, rfl⟩
    · obtain ⟨-, same⟩ := List.append_inj' split rfl
      obtain rfl := List.singleton_inj.mp same
      exact .inl stores
    · have split : history ++ [o] = (before ++ first :: later) ++ [last] := by simp [split]
      obtain ⟨rfl, same⟩ := List.append_inj' split rfl
      obtain rfl := List.singleton_inj.mp same
      rw [List.concat_eq_append] at still
      exact .inr ⟨still o (by simp), before, first, later, rfl, stores, fun other member =>
        still other (List.mem_append_left _ member)⟩
  · rintro (stores | ⟨last, before, first, later, rfl, stores, still⟩)
    · exact ⟨history, o, [], rfl, stores, nofun⟩
    · refine ⟨before, first, later ++ [o], by simp, stores, fun other member => ?_⟩
      rcases List.mem_append.mp member with member | member
      · exact still other member
      · rwa [List.mem_singleton.mp member]

/-! ## Hits -/

namespace Call

variable {c : Call ω} {s after : Site ω} {runs : List (Except Fault Value)}
  {result : Except Fault Value} {key : String} {value : Value}

theorem Reads.hit_iff (reads : c.Reads s runs result after) (rendered : c.key = .ok key) :
    (runs = [] ∧ ∃ value, result = .ok value) ↔ ∃ value, s.store.Recalls key value := by
  cases reads with
  | unrendered failed => simp [rendered] at failed
  | recalled same held =>
      obtain rfl := Except.ok.inj (same.symm.trans rendered)
      exact iff_of_true ⟨rfl, _, rfl⟩ ⟨_, held⟩
  | missed same nothing rest =>
      obtain rfl := Except.ok.inj (same.symm.trans rendered)
      have ran := (rest.ran fun (.mk) => rfl).1
      exact iff_of_false (fun hit => by simp [hit.1] at ran) fun ⟨value, held⟩ => nothing value held

theorem Reads.of_recalls (reads : c.Reads s runs result after) (rendered : c.key = .ok key)
    (recalls : s.store.Recalls key value) : result = .ok value ∧ after = s := by
  cases reads with
  | unrendered failed => simp [rendered] at failed
  | recalled same held =>
      obtain rfl := Except.ok.inj (same.symm.trans rendered)
      obtain rfl := Option.some.inj (held.1.symm.trans recalls.1)
      exact ⟨rfl, rfl⟩
  | missed same nothing rest =>
      obtain rfl := Except.ok.inj (same.symm.trans rendered)
      exact absurd recalls (nothing value)

end Call

namespace Site

theorem held_after_iff (name : String) (world : ω) (events : List (Event ω)) {key : String}
    {value : Value} :
    (after ⟨.empty name, world⟩ events).store.held key = some value ↔
      Latest (occasions ⟨.empty name, world⟩ events) key value := by
  -- from the end, where the last event decides or leaves the key to those before it
  induction events using List.reverseRecOn with
  | nil =>
      constructor
      · intro held
        cases held
      · rintro ⟨before, o, later, split, -⟩
        simp [occasions] at split
  | append_singleton events event ih =>
      rw [after_snoc, occasions_snoc, latest_snoc_iff, ← ih]
      exact (Occasion.leaves ⟨event, _⟩).held_iff

theorem hit_iff_latest (name : String) (world : ω) (events : List (Event ω)) {c : Call ω}
    (caches : c.operation.mode = .cache) {key : String} (rendered : c.key = .ok key) :
    let history := occasions ⟨.empty name, world⟩ events
    let s := after ⟨.empty name, world⟩ events
    ((c.runs s = [] ∧ ∃ value, (c.perform s).1 = .ok value) ↔
        ∃ value, Latest history key value ∧ value ≠ .null) ∧
      ∀ value, Latest history key value → value ≠ .null → c.perform s = (.ok value, s) := by
  intro history s
  have recalls : ∀ value, s.store.Recalls key value ↔
      Latest history key value ∧ value ≠ .null := fun value =>
    and_congr_left fun _ => held_after_iff name world events
  constructor
  · rw [(c.reads s caches).hit_iff rendered]
    exact exists_congr recalls
  · intro value latest something
    have ⟨returned, still⟩ := (c.reads s caches).of_recalls rendered
      ((recalls value).mpr ⟨latest, something⟩)
    exact Prod.ext returned still

/-! ## A history -/

def finding (user : String) (result : Value) : Call Unit where
  operation := findUser
  style := .awaiting
  bindings := [("user", .text user)]
  config := .null
  body _ := (.ok result, ())

def forgetting (user : String) (result : Value) : Call Unit :=
  { finding user result with
    operation := { findUser with name := "app.forget/1", mode := .invalidate } }

/-- The first user is still found: the call that forgets deletes the other one, and the result
of the last call does not pass the guard. -/
theorem hit_iff_latest_undisturbed :
    let found (n : Int) : Value := .tuple [.text "ok", .int n]
    let start : Site Unit := ⟨.empty "app", ()⟩
    let events : List (Event Unit) :=
      [.cleared, .called (finding "7" (found 1)), .called (finding "8" (found 2)),
        .called (forgetting "8" (found 2)), .called (forgetting "7" .null)]
    let c := finding "7" (found 3)
    c.operation.mode = .cache ∧ c.key = .ok "user:7" ∧ c.runs (start.after events) = [] ∧
      Latest (start.occasions events) "user:7" (found 1) ∧ found 1 ≠ .null ∧
      c.perform (start.after events) = (.ok (found 1), start.after events) := by
  intro found start events c
  have rendered : c.key = .ok "user:7" := rfl
  have ⟨isHit, returns⟩ := hit_iff_latest "app" () events (c := c) rfl rendered
  let holding (entries : Table String Value) : Site Unit := ⟨⟨"app:", entries⟩, ()⟩
  let one := ("app:user:7", found 1)
  have first : (Event.called (finding "7" (found 1))).perform (holding []) = holding [one] := rfl
  have second : (Event.called (finding "8" (found 2))).perform (holding [one]) =
      holding [one, ("app:user:8", found 2)] := rfl
  have third : (Event.called (forgetting "8" (found 2))).perform
      (holding [one, ("app:user:8", found 2)]) = holding [one] := rfl
  have fourth : (Event.called (forgetting "7" .null)).perform (holding [one]) =
      holding [one] := rfl
  have reached : start.after events = holding [one] := by
    have cleared : Event.cleared.perform start = holding [] := rfl
    simp only [events, after, List.foldl_cons, List.foldl_nil, cleared, first, second, third,
      fourth]
  have noRun : c.runs (start.after events) = [] := by
    rw [reached]
    rfl
  have returned : (c.perform (start.after events)).1 = .ok (found 1) := by
    rw [reached]
    rfl
  obtain ⟨value, latest, something⟩ := isHit.mp ⟨noRun, _, returned⟩
  have performed := returns value latest something
  obtain rfl : value = found 1 := Except.ok.inj ((congrArg Prod.fst performed).symm.trans returned)
  exact ⟨rfl, rendered, noRun, latest, something, performed⟩

end Site

end CachePolicy
