import Mathlib.Data.List.Nodup
import CachePolicy.Proofs.Interception.Settled

/-!
# What the rows of a call say

The rows that a call logs are told by what it does, and tell it: each outcome is logged if
and only if it came about, once, at its level and with the key of the call.
-/

namespace CachePolicy

def Outcome.level : Outcome → Level
  | .hit | .miss | .skipped | .stored | .invalidated => .debug
  | .unavailable => .warning
  | .putFailed | .deleteFailed => .error

def Request.key : Request → String
  | get _ key => key
  | put _ key _ _ => key
  | delete _ key => key

def LogRow.outcome? (row : LogRow) : Option Outcome := row.context.map (·.outcome)

namespace Effect

def outcomes (effects : List Effect) : List Outcome := (rows effects).filterMap LogRow.outcome?

def Answered (effects : List Effect) (method : String) (P : Except Fault Value → Prop) : Prop :=
  ∃ response ∈ responses effects, response.1.method = method ∧ P response.2

variable {effect : Effect} {rest : List Effect} {method : String} {P : Except Fault Value → Prop}

@[simp] theorem outcomes_nil : outcomes [] = [] := rfl

@[simp] theorem outcomes_cons :
    outcomes (effect :: rest) = (effect.row?.bind LogRow.outcome?).toList ++ outcomes rest := by
  rw [outcomes, rows_cons, List.filterMap_append]
  cases effect.row? with
  | none => rfl
  | some row =>
      simp only [Option.toList, List.filterMap_cons, Option.bind_some]
      cases row.outcome? <;> rfl

@[simp] theorem outcomes_settled (effects : List Effect) :
    outcomes (settled effects) = outcomes effects := by
  simp [outcomes]

@[simp] theorem answered_settled (effects : List Effect) :
    Answered (settled effects) method P ↔ Answered effects method P := by
  simp [Answered]

@[simp] theorem not_answered_nil : ¬ Answered [] method P := by simp [Answered]

@[simp] theorem answered_cons : Answered (effect :: rest) method P ↔
    (∃ response, effect.response? = some response ∧ response.1.method = method ∧ P response.2) ∨
      Answered rest method P := by
  simp [Answered, or_and_right, exists_or]

end Effect

open Effect

/-- A read that failed, or was answered with an unavailable backend. -/
inductive Unreadable : Except Fault Value → Prop
  | failed (fault : Fault) : Unreadable (.error fault)
  | down {held : Value} (unavailable : Unavailable held) : Unreadable (.ok held)

/-- An answer to a write that does not report a failure. -/
inductive WriteTaken : Except Fault Value → Prop
  | mk {held : Value} (taken : held ≠ .flag false) : WriteTaken (.ok held)

@[simp] theorem unreadable_error (fault : Fault) : Unreadable (.error fault) := .failed fault

@[simp] theorem unreadable_ok_iff {held : Value} : Unreadable (.ok held) ↔ Unavailable held := by
  constructor
  · rintro ⟨⟩
    assumption
  · exact .down

@[simp] theorem writeTaken_ok_iff {held : Value} : WriteTaken (.ok held) ↔ held ≠ .flag false := by
  constructor
  · rintro ⟨taken⟩
    exact taken
  · exact .mk

@[simp] theorem not_writeTaken_error (fault : Fault) : ¬ WriteTaken (.error fault) := nofun

theorem Hit.not_unavailable {held value : Value} (isHit : Hit held value) : ¬ Unavailable held :=
  fun down => down.not_spares value (.mk isHit)

/-- The call itself ends with a contract fault, for which the operation is not to blame. -/
def RaisesContract (action : WriteAction) (effects : List Effect)
    (result : Except Fault Value) : Prop :=
  (∃ operation place detail cause,
    result = .error (.contract action.name operation place detail cause)) ∧
  ∀ fault, .error fault ∉ runs effects

theorem WriteAction.exists_iff {P : WriteAction → Prop} :
    (∃ action, P action) ↔ P .put ∨ P .delete := by
  constructor
  · rintro ⟨_ | _, holds⟩
    exacts [.inl holds, .inr holds]
  · rintro (holds | holds)
    exacts [⟨_, holds⟩, ⟨_, holds⟩]

namespace Operation

variable (op : Operation)

/-- The key that stands in a row.  An invalidation that is skipped has not rendered its key. -/
def rowKey (key : String) (outcome : Outcome) : String :=
  if op.mode = .invalidate ∧ outcome = .skipped then "" else key

/-- What the rows of a call with a key tell, and what tells them. -/
structure LogsTruth (key : String) (effects : List Effect) (result : Except Fault Value) :
    Prop where
  hit_iff : .hit ∈ outcomes effects ↔ runs effects = []
  unavailable_iff : .unavailable ∈ outcomes effects ↔ Answered effects "get" Unreadable
  miss_iff : .miss ∈ outcomes effects ↔ Answered effects "get" Misses
  skipped_iff : .skipped ∈ outcomes effects ↔
    (Answered effects "get" Misses ∨ op.mode = .invalidate) ∧
      ∃ value, runs effects = [.ok value] ∧ op.guard.holds value = .ok false
  stored_iff : .stored ∈ outcomes effects ↔ Answered effects "put" WriteTaken
  invalidated_iff : .invalidated ∈ outcomes effects ↔ Answered effects "delete" WriteTaken
  putFailed_iff : .putFailed ∈ outcomes effects ↔ RaisesContract .put effects result
  deleteFailed_iff : .deleteFailed ∈ outcomes effects ↔ RaisesContract .delete effects result
  error_rows : ∀ row ∈ rows effects, row.level = .error → ∃ action detail cause,
    row = op.writeFailedRow action key detail cause ∧
    result = .error (.contract action.name op.name key detail cause) ∧
    ∀ fault, cause = some fault ↔ Answered effects action.name (· = .error fault)
  no_fault : ∀ row ∈ rows effects, row.level ≠ .error → row.faultName = none
  context : ∀ row ∈ rows effects, ∃ outcome, row.level = outcome.level ∧
    row.context = some ⟨op.name, op.mode.name, op.rowKey key outcome, outcome⟩
  sent_key : ∀ request ∈ requests effects, request.key = key
  outcomes_once : (outcomes effects).Nodup
  silent_after : ∀ fault row, ¬ [.ran (.error fault), .logged row].Sublist effects

variable {op : Operation} {bindings : Bindings} {config : Value} {key : String}
  {effects : List Effect} {result : Except Fault Value}

section

attribute [local simp] Request.method Request.key WriteAction.name WriteAction.succeeded
  WriteAction.failed Outcome.level LogRow.outcome? row hitRow missRow unavailableRow
  readFailedRow notStoredRow notInvalidatedRow writtenRow writeFailedRow rowKey RaisesContract
  WriteAction.exists_iff List.cons_sublist_cons' not_misses_error

theorem CacheRun.logsTruth (caches : op.mode = .cache)
    (run : op.CacheRun bindings config effects result)
    (rendered : op.key.render bindings = .ok key)
    (decides : ∀ value, .ran (.ok value) ∈ effects →
      ∃ passes, op.guard.holds value = .ok passes) :
    op.LogsTruth key effects result := by
  -- Each shape of a run writes its effects out, so every field is computed from them.
  cases run with
  | unrendered failed => simp [rendered] at failed
  | @hit key' held value same isHit =>
      obtain rfl : key' = key := by simpa [rendered] using same.symm
      constructor <;> simp [caches, isHit.not_misses, isHit.not_unavailable]
  | @readFailed key' same fault result =>
      obtain rfl : key' = key := by simpa [rendered] using same.symm
      constructor <;> simp +contextual [caches]
  | @unavailable key' held same down result =>
      obtain rfl : key' = key := by simpa [rendered] using same.symm
      constructor <;> simp +contextual [caches, down, down.not_misses]
  | @missed key' held effects result same noHit available rest =>
      obtain rfl : key' = key := by simpa [rendered] using same.symm
      have misses : Misses (.ok held) := .mk noHit available
      cases rest with
      | raised fault => constructor <;> simp [caches, available, misses]
      | @undecided value fault guard =>
          obtain ⟨passes, decided⟩ := decides value (by simp)
          simp [guard] at decided
      | skipped guard => constructor <;> simp [caches, available, misses, guard]
      | passed guard rest =>
          obtain ⟨reply, ends⟩ := rest
          cases ends with
          | raised fault => constructor <;> simp [caches, available, misses, guard]
          | refused => constructor <;> simp [caches, available, misses, guard]
          | taken taken => constructor <;> simp [caches, available, misses, guard, taken]

theorem InvalidateRun.logsTruth (invalidates : op.mode = .invalidate)
    (run : op.InvalidateRun bindings config effects result)
    (rendered : op.key.render bindings = .ok key)
    (decides : ∀ value, .ran (.ok value) ∈ effects →
      ∃ passes, op.guard.holds value = .ok passes) :
    op.LogsTruth key effects result := by
  cases run with
  | raised fault => constructor <;> simp [invalidates]
  | @undecided value fault guard =>
      obtain ⟨passes, decided⟩ := decides value (by simp)
      simp [guard] at decided
  | skipped guard => constructor <;> simp [invalidates, guard]
  | passed guard rest =>
      cases rest with
      | unrendered failed => simp [rendered] at failed
      | @deleted key' effects result same write =>
          obtain rfl : key' = key := by simpa [rendered] using same.symm
          obtain ⟨reply, ends⟩ := write
          cases ends with
          | raised fault => constructor <;> simp [invalidates, guard]
          | refused => constructor <;> simp [invalidates, guard]
          | taken taken => constructor <;> simp [invalidates, guard, taken]

end

/-! ## Calls -/

theorem LogsTruth.of_settled (truth : op.LogsTruth key (settled effects) result)
    (sameRequests : requests (settled effects) = requests effects) :
    op.LogsTruth key effects result where
  hit_iff := by simpa using truth.hit_iff
  unavailable_iff := by simpa using truth.unavailable_iff
  miss_iff := by simpa using truth.miss_iff
  skipped_iff := by simpa using truth.skipped_iff
  stored_iff := by simpa using truth.stored_iff
  invalidated_iff := by simpa using truth.invalidated_iff
  putFailed_iff := by simpa [RaisesContract] using truth.putFailed_iff
  deleteFailed_iff := by simpa [RaisesContract] using truth.deleteFailed_iff
  error_rows := by simpa using truth.error_rows
  no_fault := by simpa using truth.no_fault
  context := by simpa using truth.context
  sent_key := by simpa [sameRequests] using truth.sent_key
  outcomes_once := by simpa using truth.outcomes_once
  silent_after fault row later := truth.silent_after fault row (later.filterMap settled?)

theorem LogsTruth.rows_nodup (truth : op.LogsTruth key effects result) : (rows effects).Nodup := by
  have once := List.pairwise_filterMap.mp truth.outcomes_once
  refine once.imp_of_mem fun {row row'} logged _ apart same => ?_
  obtain ⟨outcome, -, context⟩ := truth.context row logged
  have told : row.outcome? = some outcome := by simp [LogRow.outcome?, context]
  exact apart outcome told outcome (same ▸ told) rfl

theorem interception_logs_truth {σ : Type} {h : Handler σ} (op : Operation) (style : CallStyle)
    (ready : style = .direct → h.AnswersAtOnce) (catchable : h.FailsCatchably)
    (awaits : h.AwaitsCatchably) (bindings : Bindings) (config : Value) (key : String)
    (rendered : op.key.render bindings = .ok key) (s : σ)
    (decides : ∀ value, .ran (.ok value) ∈ (op.interception style bindings config).trace h s →
      ∃ passes, op.guard.holds value = .ok passes) :
    let effects := (op.interception style bindings config).trace h s
    let result := (op.interception style bindings config).result h s
    op.LogsTruth key effects result ∧ (rows effects).Nodup := by
  intro effects result
  have follows := op.interception_follows_settled style ready bindings config s catchable awaits
  have decides' : ∀ value, .ran (.ok value) ∈ settled effects →
      ∃ passes, op.guard.holds value = .ok passes := by
    intro value ran
    refine decides value (mem_runs_iff.mp ?_)
    rw [← runs_settled]
    exact mem_runs_iff.mpr ran
  have truth : op.LogsTruth key (settled effects) result := by
    cases mode : op.mode with
    | cache =>
        simp only [mode] at follows
        exact follows.logsTruth mode rendered decides'
    | invalidate =>
        simp only [mode] at follows
        exact follows.logsTruth mode rendered decides'
  have told : op.LogsTruth key effects result :=
    truth.of_settled (op.interception_settled style ready bindings config s).2.2
  exact ⟨told, told.rows_nodup⟩

/-- A miss, a result that passes the guard, and a put that fails, told only when it is awaited. -/
theorem interception_logs_truth_failed_put :
    let down : Fault := .outside (.mk .connection (some "down") none none false)
    let h := (Handler.fixed (fun request => match request with
      | .get _ _ => .ok .null
      | _ => .error down) (.ok (.tuple [.text "ok", .int 7]))).deferring fun _ _ => true
    let call := findUser.interception .awaiting [("user", .text "7")] .null
    (CallStyle.awaiting = .direct → h.AnswersAtOnce) ∧ h.FailsCatchably ∧ h.AwaitsCatchably ∧
      findUser.key.render [("user", .text "7")] = .ok "user:7" ∧
      findUser.LogsTruth "user:7" (call.trace h ()) (call.result h ()) ∧
      rows (call.trace h ()) = [findUser.missRow "user:7",
        findUser.writeFailedRow .put "user:7" "down" (some down)] := by
  intro down h call
  have ready : CallStyle.awaiting = .direct → h.AnswersAtOnce := nofun
  have catchable : h.FailsCatchably := fun request s fault failed => by cases failed
  have awaits : h.AwaitsCatchably := by
    intro request s fault failed
    cases request <;> cases failed <;> rfl
  have rendered : findUser.key.render [("user", .text "7")] = .ok "user:7" := rfl
  have decides : ∀ value, .ran (.ok value) ∈ call.trace h () →
      ∃ passes, findUser.guard.holds value = .ok passes := by
    intro value ran
    have ranOnce : runs (call.trace h ()) = [.ok (.tuple [.text "ok", .int 7])] := rfl
    obtain rfl : value = .tuple [.text "ok", .int 7] := by
      simpa [ranOnce] using mem_runs_iff.mpr ran
    exact ⟨true, rfl⟩
  have told := interception_logs_truth findUser .awaiting ready catchable awaits _ .null "user:7"
    rendered () decides
  exact ⟨ready, catchable, awaits, rendered, told.1, rfl⟩

end Operation

end CachePolicy
