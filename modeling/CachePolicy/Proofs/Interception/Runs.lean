import CachePolicy.Proofs.Interception.Agreement

/-!
# Runs of an interception

Every way in which a call can go on a backend that answers at once and fails in ways
that may be caught: what it does, in order, and how it ends.  The shapes are put
together like the programs, one for each step, and a shape says under which answers it
is taken.
-/

namespace CachePolicy

/-! ## Answers to a read -/

/-- An answer that is a hit, and the value that it is a hit with. -/
inductive Hit : Value → Value → Prop
  | lookup {value : Value} (something : value ≠ .null) :
      Hit (.lookup (.known .hit) value) value
  | bare {value : Value} (something : value ≠ .null)
      (noLookup : ∀ status held, value ≠ .lookup status held) : Hit value value

/-- An answer that says that the backend could not be read. -/
def Unavailable (answer : Value) : Prop := ∃ held, answer = .lookup (.known .unavailable) held

theorem isNull_eq_false_iff {value : Value} : value.isNull = false ↔ value ≠ .null := by
  unfold Value.isNull
  split <;> simp_all

namespace Lookup

theorem ofReply_of_bare {value : Value} (something : value ≠ .null)
    (noLookup : ∀ status held, value ≠ .lookup status held) : ofReply value = hit value := by
  unfold ofReply
  split
  · exact absurd rfl (noLookup _ _)
  · exact absurd rfl something
  · rfl

theorem found_ofReply_iff {answer value : Value} :
    (ofReply answer).found = true ∧ (ofReply answer).value = value ↔ Hit answer value := by
  constructor
  · rintro ⟨found, rfl⟩
    unfold ofReply at found ⊢
    split at found
    · rename_i status held
      simp only [Lookup.found, isFound, Bool.and_eq_true, decide_eq_true_eq,
        Bool.not_eq_true'] at found
      obtain ⟨rfl, something⟩ := found
      exact .lookup (isNull_eq_false_iff.mp something)
    · simp [Lookup.found, isFound, miss] at found
    · rename_i noLookup something
      exact .bare (fun same => something same) (fun status held same => noLookup status held same)
  · intro isHit
    cases isHit with
    | lookup something =>
        exact ⟨by simpa [ofReply, Lookup.found, isFound] using isNull_eq_false_iff.mpr something,
          rfl⟩
    | bare something noLookup =>
        rw [ofReply_of_bare something noLookup]
        exact ⟨by simpa [hit, Lookup.found, isFound] using isNull_eq_false_iff.mpr something, rfl⟩

theorem isUnavailable_ofReply_iff {answer : Value} :
    (ofReply answer).isUnavailable = true ↔ Unavailable answer := by
  unfold ofReply Unavailable
  split <;> simp_all [Lookup.isUnavailable, hit, miss]

end Lookup

/-! ## Shapes of runs -/

namespace Operation

/-- How a write ends, given the answer to it, and the row that says so. -/
inductive WriteEnds (op : Operation) (action : WriteAction) (key : String) (value : Value) :
    Except Fault Value → LogRow → Except Fault Value → Prop
  | raised (fault : Fault) :
      WriteEnds op action key value (.error fault)
        (op.writeFailedRow action key fault.message (some fault))
        (.error (.contract action.name op.name key fault.message (some fault)))
  | refused :
      WriteEnds op action key value (.ok (.flag false))
        (op.writeFailedRow action key "backend returned False" none)
        (.error (.contract action.name op.name key "backend returned False" none))
  | taken {answer : Value} (taken : answer ≠ .flag false) :
      WriteEnds op action key value (.ok answer) (op.writtenRow action key) (.ok value)

inductive WriteRun (op : Operation) (action : WriteAction) (request : Request) (key : String)
    (value : Value) : List Effect → Except Fault Value → Prop
  | mk (answer : Except Fault Value) {row : LogRow} {result : Except Fault Value}
      (ends : op.WriteEnds action key value answer row result) :
      WriteRun op action request key value
        [.asked request (answer.map .value), .logged row] result

/-- The operation runs, and a result that passes the guard is followed by a further run. -/
inductive GuardedRun (op : Operation) (skippedRow : LogRow)
    (Passed : Value → List Effect → Except Fault Value → Prop) :
    List Effect → Except Fault Value → Prop
  | raised (fault : Fault) : GuardedRun op skippedRow Passed [.ran (.error fault)] (.error fault)
  | undecided {value : Value} {fault : Fault} (guard : op.guard.holds value = .error fault) :
      GuardedRun op skippedRow Passed [.ran (.ok value)] (.error fault)
  | skipped {value : Value} (guard : op.guard.holds value = .ok false) :
      GuardedRun op skippedRow Passed [.ran (.ok value), .logged skippedRow] (.ok value)
  | passed {value : Value} {effects : List Effect} {result : Except Fault Value}
      (guard : op.guard.holds value = .ok true) (rest : Passed value effects result) :
      GuardedRun op skippedRow Passed (.ran (.ok value) :: effects) result

inductive CacheRun (op : Operation) (bindings : Bindings) (config : Value) :
    List Effect → Except Fault Value → Prop
  | unrendered {fault : Fault} (rendered : op.key.render bindings = .error fault) :
      CacheRun op bindings config [] (.error fault)
  | hit {key : String} {answer value : Value} (rendered : op.key.render bindings = .ok key)
      (isHit : Hit answer value) :
      CacheRun op bindings config
        [.asked (.get config key) (.ok (.value answer)), .logged (op.hitRow key)] (.ok value)
  | readFailed {key : String} (rendered : op.key.render bindings = .ok key) (fault : Fault)
      (result : Except Fault Value) :
      CacheRun op bindings config
        [.asked (.get config key) (.error fault), .logged (op.readFailedRow key fault),
          .ran result] result
  | unavailable {key : String} {answer : Value} (rendered : op.key.render bindings = .ok key)
      (unavailable : Unavailable answer) (result : Except Fault Value) :
      CacheRun op bindings config
        [.asked (.get config key) (.ok (.value answer)), .logged (op.unavailableRow key),
          .ran result] result
  | missed {key : String} {answer : Value} {effects : List Effect}
      {result : Except Fault Value} (rendered : op.key.render bindings = .ok key)
      (noHit : ∀ value, ¬ Hit answer value) (available : ¬ Unavailable answer)
      (rest : op.GuardedRun (op.notStoredRow key)
        (fun value => op.WriteRun .put (.put config key value op.options) key value)
        effects result) :
      CacheRun op bindings config
        (.asked (.get config key) (.ok (.value answer)) :: .logged (op.missRow key) :: effects)
        result

/-- The run behind a result that passed the guard of an invalidating operation. -/
inductive DeleteRun (op : Operation) (bindings : Bindings) (config value : Value) :
    List Effect → Except Fault Value → Prop
  | unrendered {fault : Fault} (rendered : op.key.render bindings = .error fault) :
      DeleteRun op bindings config value [] (.error fault)
  | deleted {key : String} {effects : List Effect} {result : Except Fault Value}
      (rendered : op.key.render bindings = .ok key)
      (rest : op.WriteRun .delete (.delete config key) key value effects result) :
      DeleteRun op bindings config value effects result

def InvalidateRun (op : Operation) (bindings : Bindings) (config : Value) :
    List Effect → Except Fault Value → Prop :=
  op.GuardedRun op.notInvalidatedRow (op.DeleteRun bindings config)

end Operation

/-! ## Programs keep to the shapes -/

variable {σ : Type}

def Program.Follows (h : Handler σ) (p : Program)
    (Allowed : List Effect → Except Fault Value → Prop) : Prop :=
  ∀ s, Allowed (p.trace h s) (p.result h s)

namespace Operation

variable (op : Operation) {h : Handler σ}

theorem writeAnswered_of_ne {action : WriteAction} {key : String} {value answer : Value}
    (taken : answer ≠ .flag false) :
    op.writeAnswered action key value answer =
      .log (op.writtenRow action key) (.done (.ok value)) := by
  unfold writeAnswered
  split
  · exact absurd rfl taken
  · rfl

theorem write_follows (atOnce : h.AnswersAtOnce) (catchable : h.FailsCatchably)
    (action : WriteAction) (request : Request) (key : String) (value : Value) :
    (op.write action request key value).Follows h (op.WriteRun action request key value) := by
  intro s
  obtain ⟨answer, asked⟩ := atOnce.reply request s
  simp only [write, Program.trace, Program.result, Program.exec_ask, asked]
  cases answer with
  | error fault =>
      have caught := catchable request s fault asked
      simp only [Except.map, Program.caught, caught]
      exact .mk (.error fault) (.raised fault)
  | ok answer =>
      by_cases refused : answer = .flag false
      · subst refused
        exact .mk (.ok (.flag false)) .refused
      · simp only [Except.map, Program.caught, Operation.atOnce,
          op.writeAnswered_of_ne refused]
        exact .mk (.ok answer) (.taken refused)

theorem runGuarded_follows {passed : Value → Program} {row : LogRow}
    {Passed : Value → List Effect → Except Fault Value → Prop}
    (follows : ∀ value, (passed value).Follows h (Passed value)) :
    (Program.run (.unlessFault fun value => op.ifGuarded value (passed value) row)).Follows h
      (op.GuardedRun row Passed) := by
  intro s
  simp only [Program.trace, Program.result, Program.exec_run]
  cases (h.run s).1 with
  | error fault => exact .raised fault
  | ok value =>
      simp only [Program.unlessFault, ifGuarded]
      cases guard : op.guard.holds value with
      | error fault => exact .undecided guard
      | ok passes =>
          cases passes with
          | false => exact .skipped guard
          | true => exact .passed guard (follows value _)

theorem readThrough_follows (atOnce : h.AnswersAtOnce) (catchable : h.FailsCatchably)
    (bindings : Bindings) (config : Value) :
    (op.readThrough bindings config).Follows h (op.CacheRun bindings config) := by
  intro s
  unfold readThrough
  cases rendered : op.key.render bindings with
  | error fault => exact .unrendered rendered
  | ok key =>
      obtain ⟨answer, asked⟩ := atOnce.reply (.get config key) s
      simp only [Program.unlessFault, Program.trace, Program.result, Program.exec_ask, asked]
      cases answer with
      | error fault =>
          have caught := catchable _ s fault asked
          simp only [Except.map, Program.caught, caught]
          exact .readFailed rendered fault _
      | ok answer =>
          simp only [Except.map, Program.caught, Operation.atOnce, afterLookup]
          by_cases found : (Lookup.ofReply answer).found
          · have isHit := Lookup.found_ofReply_iff.mp ⟨found, rfl⟩
            simp only [found]
            exact .hit rendered isHit
          · have noHit : ∀ value, ¬ Hit answer value := fun value isHit =>
              found (Lookup.found_ofReply_iff.mpr isHit).1
            by_cases unavailable : (Lookup.ofReply answer).isUnavailable
            · simp only [found, unavailable]
              exact .unavailable rendered (Lookup.isUnavailable_ofReply_iff.mp unavailable) _
            · simp only [found, unavailable]
              exact .missed rendered noHit
                (fun down => unavailable (Lookup.isUnavailable_ofReply_iff.mpr down))
                (op.runGuarded_follows (fun value => op.write_follows atOnce catchable _ _ _ _) _)

theorem runThenInvalidate_follows (atOnce : h.AnswersAtOnce) (catchable : h.FailsCatchably)
    (bindings : Bindings) (config : Value) :
    (op.runThenInvalidate bindings config).Follows h (op.InvalidateRun bindings config) := by
  refine op.runGuarded_follows fun value s => ?_
  cases rendered : op.key.render bindings with
  | error fault => exact .unrendered rendered
  | ok key => exact .deleted rendered (op.write_follows atOnce catchable _ _ _ _ s)

/-- The runs of calls, whichever way they take their answers. -/
theorem interception_follows (atOnce : h.AnswersAtOnce) (catchable : h.FailsCatchably)
    (style : CallStyle) (bindings : Bindings) (config : Value) :
    (op.interception style bindings config).Follows h
      (match op.mode with
        | .cache => op.CacheRun bindings config
        | .invalidate => op.InvalidateRun bindings config) := by
  have direct : (op.intercept bindings config).Follows h
      (match op.mode with
        | .cache => op.CacheRun bindings config
        | .invalidate => op.InvalidateRun bindings config) := by
    unfold intercept
    cases op.mode with
    | cache => exact op.readThrough_follows atOnce catchable bindings config
    | invalidate => exact op.runThenInvalidate_follows atOnce catchable bindings config
  intro s
  rw [Program.result, interception_trace_eq atOnce, interception_exec_eq atOnce]
  exact direct s

end Operation

end CachePolicy
