import CachePolicy.Proofs.Concurrency.Interleaving

/-!
# Values behind an invalidation

A cached call that starts when an invalidation of its key has completed returns a value
that was computed after the key was deleted, or a value that a cached call of the key
had computed by then and put under the key only afterwards.  Nothing is locked, and
nothing is checked again before a put, so such a late put can bring a value back that
is older than the invalidation.
-/

namespace CachePolicy

variable {ι σ : Type}

namespace Task

/-- The task is an invalidation of the key, and deletes it if its operation comes to the result. -/
def Invalidates (t : Task) (key : String) (result : Value) : Prop :=
  t.operation.mode = .invalidate ∧ t.operation.key.render t.bindings = .ok key ∧
    t.operation.guard.holds result = .ok true

end Task

theorem History.not_mem_of_caller {history : History ι} {caller : ι}
    (silent : caller ∉ history.map Prod.fst) (effect : Effect) : (caller, effect) ∉ history :=
  fun had => silent (List.mem_map_of_mem had)

/-- The call reads what the writer put under the key: the put is the last write before the read,
and the writer has the earlier part of the history behind it. -/
def History.ReadsPut (key : String) (value : Value) (caller writer : ι)
    (earlier history : History ι) : Prop :=
  ∃ sofar read rest config answer,
    history = sofar ++ (caller, read) :: rest ∧
      read.performed? = some (.get config key, answer) ∧ Hit answer value ∧
        LastPut key value writer earlier sofar

namespace Interleaving

variable [DecidableEq ι] {m : AtomicMap σ} {x : Interleaving ι σ} {tasks : ι → Task}
  {held : String → Option Value} {caller invalidator writer : ι} {key : String}
  {value result : Value}

/-! ## What histories grow by -/

theorem history_turn (m : AtomicMap σ) (x : Interleaving ι σ) (t : Turn ι) :
    x.history <+: (x.turn m t).history := by
  cases stepped : (x.left t.caller).step (t.handler m) x.store with
  | none => exact ⟨[], by simp [turn_of_done stepped]⟩
  | some next =>
      rw [turn_of_step stepped]
      exact List.prefix_append _ _

theorem history_play (m : AtomicMap σ) (x : Interleaving ι σ) (turns : List (Turn ι)) :
    x.history <+: (x.play m turns).history := by
  induction turns generalizing x with
  | nil => exact List.prefix_refl _
  | cons t turns ih => exact (history_turn m x t).trans (ih _)

/-! ## What calls have behind them -/

variable (lawful : x.Lawful (fun caller => (tasks caller).rule) m held)

include lawful

theorem Lawful.returned (returned : x.left caller = .done (.ok value)) :
    (tasks caller).operation.Returns (tasks caller).bindings (x.history.own caller) value := by
  have obeys := lawful.obeys caller
  rw [returned] at obeys
  exact obeys

/-- An invalidation that has completed has deleted its key. -/
theorem Lawful.deleted (invalidates : (tasks invalidator).Invalidates key result)
    (completed : x.left invalidator = .done (.ok result)) :
    ∃ before deletion between config answer,
      x.history = before ++ (invalidator, deletion) :: between ∧
        deletion.performed? = some (.delete config key, answer) := by
  obtain ⟨mode, rendered, passed⟩ := invalidates
  obtain ⟨config, other, answer, same, deletion, member, performed⟩ :=
    (lawful.returned completed).deletes mode passed
  obtain rfl : key = other := by simpa [rendered] using same
  obtain ⟨before, between, split⟩ := List.append_of_mem (History.mem_own_iff.mp member)
  exact ⟨before, deletion, between, config, answer, split, performed⟩

/-- A value is put only under the key of a cached call, and when the call has computed it. -/
theorem Lawful.computed {earlier later : History ι} {put : Effect} {config answer : Value}
    {options : Table String Value} (split : x.history = earlier ++ (writer, put) :: later)
    (performed : put.performed? = some (.put config key value options, answer)) :
    (tasks writer).Caches key ∧ (writer, .ran (.ok value)) ∈ earlier := by
  obtain ⟨mode, rendered, ran⟩ := (lawful.warranted earlier _ later split).asks _ _ performed
  exact ⟨⟨mode, rendered⟩, History.mem_own_iff.mp ran⟩

variable {before sofar rest : History ι} {deletion read : Effect}
  {config config' answer answer' : Value}

/-- A read behind a deletion that is a hit reads what has been put since then. -/
theorem Lawful.lastPut_of_read
    (split : x.history =
      before ++ (invalidator, deletion) :: (sofar ++ (caller, read) :: rest))
    (deleted : deletion.performed? = some (.delete config key, answer))
    (performed : read.performed? = some (.get config' key, answer')) (isHit : Hit answer' value) :
    ∃ writer earlier, History.LastPut key value writer earlier sofar := by
  have splitRead : x.history =
      (before ++ [(invalidator, deletion)] ++ sofar) ++ (caller, read) :: rest := by
    simp [split]
  have taken := (lawful.warranted _ _ _ splitRead).reads _ _ _ _ performed isHit
  have free : History.leaves held (before ++ [(invalidator, deletion)]) key = none := by
    simp [History.leaves, Effect.leaves, deleted, Request.leaves]
  rw [History.leaves_append] at taken
  rcases History.kept_or_lastPut taken with ⟨kept, -⟩ | lastPut
  · simp [free] at kept
  · exact lastPut

/-- The writer of what is read behind a deletion has computed it since then, or before. -/
theorem Lawful.readsPut
    (split : x.history =
      before ++ (invalidator, deletion) :: (sofar ++ (caller, read) :: rest))
    (deleted : deletion.performed? = some (.delete config key, answer))
    (performed : read.performed? = some (.get config' key, answer')) (isHit : Hit answer' value) :
    ∃ writer earlier, (tasks writer).Caches key ∧
      History.ReadsPut key value caller writer earlier (sofar ++ (caller, read) :: rest) ∧
      ((writer, .ran (.ok value)) ∈ earlier ∨ (writer, .ran (.ok value)) ∈ before) := by
  obtain ⟨writer, earlier, lastPut⟩ := lawful.lastPut_of_read split deleted performed isHit
  have reads : History.ReadsPut key value caller writer earlier
      (sofar ++ (caller, read) :: rest) :=
    ⟨sofar, read, rest, config', answer', rfl, performed, isHit, lastPut⟩
  obtain ⟨put, later, putConfig, options, putAnswer, rfl, putPerformed, -⟩ := lastPut
  have splitPut : x.history = (before ++ (invalidator, deletion) :: earlier) ++
      (writer, put) :: (later ++ (caller, read) :: rest) := by
    simp [split]
  obtain ⟨caches, ran⟩ := lawful.computed splitPut putPerformed
  refine ⟨writer, earlier, caches, reads, ?_⟩
  rcases List.mem_append.mp ran with ran | ran
  · exact .inr ran
  · rcases List.mem_cons.mp ran with same | ran
    · -- A run is no request, and so not the deletion.
      cases same
      cases deleted
    · exact .inl ran

omit lawful

/-! ## What is returned behind an invalidation -/

theorem returned_fresh_or_put_late (m : AtomicMap σ) (tasks : ι → Task) (s : σ)
    (first second : List (Turn ι)) :
    let midway := (start tasks s).play m first
    let final := midway.play m second
    ∀ {invalidator caller : ι} {key : String} {result value : Value},
      (tasks invalidator).Invalidates key result →
      midway.left invalidator = .done (.ok result) →
      (tasks caller).Caches key →
      (∀ effect, (caller, effect) ∉ midway.history) →
      final.left caller = .done (.ok value) →
      ∃ (before after : History ι) (deletion : Effect) (config answer : Value),
        final.history = before ++ (invalidator, deletion) :: after ∧
          before ++ [(invalidator, deletion)] <+: midway.history ∧
          deletion.performed? = some (.delete config key, answer) ∧
          ((caller, .ran (.ok value)) ∈ after ∨
            ∃ writer earlier, (tasks writer).Caches key ∧
              History.ReadsPut key value caller writer earlier after ∧
              ((writer, .ran (.ok value)) ∈ earlier ∨ (writer, .ran (.ok value)) ∈ before)) := by
  intro midway final invalidator caller key result value invalidates completed caches startsLater
    returned
  have lawful : midway.Lawful (fun caller => (tasks caller).rule) m (m.held s) :=
    (lawful_start tasks s).play first
  have lawfulFinal := lawful.play second
  obtain ⟨before, deletion, between, config, answer, split, deleted⟩ :=
    lawful.deleted invalidates completed
  obtain ⟨more, grown⟩ := history_play m midway second
  have splitFinal : final.history = before ++ (invalidator, deletion) :: (between ++ more) := by
    rw [← grown, split]
    simp
  have since {effect : Effect} (had : effect ∈ final.history.own caller) :
      (caller, effect) ∈ more := by
    rw [History.mem_own_iff, ← grown, List.mem_append] at had
    exact had.resolve_left (startsLater effect)
  refine ⟨before, between ++ more, deletion, config, answer, splitFinal,
    ⟨between, by simp [split]⟩, deleted, ?_⟩
  rcases (lawfulFinal.returned returned).comesFrom with
    ran | ⟨config', other, answer', rendered, isHit, read, had, performed⟩
  · exact .inl (List.mem_append_right _ (since ran))
  · right
    obtain rfl : key = other := by simpa [caches.2] using rendered
    obtain ⟨sofar, rest, splitMore⟩ := List.append_of_mem (since had)
    have splitAfter : between ++ more = (between ++ sofar) ++ (caller, read) :: rest := by
      simp [splitMore]
    rw [splitAfter] at splitFinal ⊢
    exact lawfulFinal.readsPut splitFinal deleted performed isHit

/-! ## Three calls for one user -/

inductive Visitor where
  | load
  | refresh
  | find
  deriving DecidableEq

/-- Two cached calls that find a user, and one that refreshes the user and deletes the key. -/
def visits (visitor : Visitor) : Task where
  operation :=
    { findUser with
      mode := if visitor = .refresh then .invalidate else .cache
      guard := .always }
  bindings := [("user", .text "7")]
  config := .null

/-- Turns of one visitor in a row. -/
def turns (visitor : Visitor) (defers : Bool) (outcome : String) (count : Nat) :
    List (Turn Visitor) :=
  List.replicate count ⟨visitor, defers, .ok (.text outcome)⟩

def emptySite : Site Unit := ⟨.empty "app", ()⟩

/-- The user is loaded when the refreshing call has completed, and found in the store. -/
theorem returned_fresh_or_put_late_loaded :
    let midway := (start visits emptySite).play (Site.atomicMap Unit) (turns .refresh true "new" 4)
    let final := midway.play (Site.atomicMap Unit)
      (turns .load true "new" 7 ++ turns .find false "newer" 2)
    (visits .refresh).Invalidates "user:7" (.text "new") ∧
      midway.left .refresh = .done (.ok (.text "new")) ∧ (visits .find).Caches "user:7" ∧
      (∀ effect, (.find, effect) ∉ midway.history) ∧
      final.left .find = .done (.ok (.text "new")) ∧
      ∃ (before after : History Visitor) (deletion : Effect) (config answer : Value),
        final.history = before ++ (.refresh, deletion) :: after ∧
          before ++ [(.refresh, deletion)] <+: midway.history ∧
          deletion.performed? = some (.delete config "user:7", answer) ∧
          ((.find, .ran (.ok (.text "new"))) ∈ after ∨
            ∃ writer earlier, (visits writer).Caches "user:7" ∧
              History.ReadsPut "user:7" (.text "new") .find writer earlier after ∧
              ((writer, .ran (.ok (.text "new"))) ∈ earlier ∨
                (writer, .ran (.ok (.text "new"))) ∈ before)) := by
  intro midway final
  have invalidates : (visits .refresh).Invalidates "user:7" (.text "new") := ⟨rfl, rfl, rfl⟩
  have completed : midway.left .refresh = .done (.ok (.text "new")) := rfl
  have caches : (visits .find).Caches "user:7" := ⟨rfl, rfl⟩
  have startsLater : ∀ effect, (.find, effect) ∉ midway.history :=
    History.not_mem_of_caller (by decide)
  have returned : final.left .find = .done (.ok (.text "new")) := rfl
  exact ⟨invalidates, completed, caches, startsLater, returned,
    returned_fresh_or_put_late _ visits emptySite _ _ invalidates completed caches startsLater
      returned⟩

/-- The user was loaded before the operation of the refreshing call was run, is put when that
call has completed, and is found afterwards. -/
theorem late_put_outlives_deletion :
    let midway := (start visits emptySite).play (Site.atomicMap Unit)
      (turns .load false "old" 3 ++ turns .refresh false "new" 3)
    let final := midway.play (Site.atomicMap Unit)
      (turns .load false "old" 2 ++ turns .find false "new" 2)
    (visits .refresh).Invalidates "user:7" (.text "new") ∧
      midway.left .refresh = .done (.ok (.text "new")) ∧ (visits .find).Caches "user:7" ∧
      (∀ effect, (.find, effect) ∉ midway.history) ∧
      final.left .find = .done (.ok (.text "old")) ∧ (visits .load).Caches "user:7" ∧
      (final.history.filterMap fun event => event.2.ranWith?.map (event.1, ·)) =
        [(.load, .ok (.text "old")), (.refresh, .ok (.text "new"))] := by
  intro midway final
  have startsLater : ∀ effect, (.find, effect) ∉ midway.history :=
    History.not_mem_of_caller (by decide)
  exact ⟨⟨rfl, rfl, rfl⟩, rfl, ⟨rfl, rfl⟩, startsLater, rfl, ⟨rfl, rfl⟩, rfl⟩

end Interleaving

end CachePolicy
