import CachePolicy.Proofs.Interception.Policy
import CachePolicy.Proofs.Key.Rendering
import CachePolicy.Proofs.Pattern.Breaking

/-!
# Results on their way to the caller

A value that the operation returned reaches the caller, or else a contract fault says
that a write failed.  Only two things come between: the guard is asked and breaks on
the value, or the value passes it and an invalidating operation cannot render its key.
The operation has run by then, and its result is lost.
-/

namespace CachePolicy

/-- The caller is given the value, or is told that a write failed. -/
inductive Reached (value : Value) : Except Fault Value → Prop
  | returned : Reached value (.ok value)
  | unwritten (action operation key detail : String) (cause : Option Fault) :
      Reached value (.error (.contract action operation key detail cause))

namespace Operation

/-- A cached operation asks its guard only after a miss. -/
def AsksGuard (op : Operation) (effects : List Effect) : Prop :=
  op.mode = .invalidate ∨
    ∃ config key answer, .asked (.get config key) (.ok (.value answer)) ∈ effects ∧
      Misses (.ok answer)

inductive Obstructed (op : Operation) (bindings : Bindings) (effects : List Effect)
    (value : Value) : Fault → Prop
  | guard {fault : Fault} (asked : op.AsksGuard effects) (breaks : op.guard.Breaks value fault) :
      Obstructed op bindings effects value fault
  | key {fault : Fault} (invalidates : op.mode = .invalidate)
      (passes : op.guard.holds value = .ok true)
      (breaks : SegmentsBreak bindings op.key.segments fault) :
      Obstructed op bindings effects value fault

variable {op : Operation} {bindings : Bindings} {config value : Value} {key : String}
  {effects : List Effect} {result : Except Fault Value} {fault : Fault}

theorem Obstructed.not_reached (obstructed : op.Obstructed bindings effects value fault) :
    ¬ Reached value (.error fault) := by
  intro reached
  cases reached with
  | unwritten action operation key detail cause =>
      cases obstructed with
      | guard _ breaks => exact nomatch breaks.matchFault
      | key _ _ breaks => exact nomatch breaks.keyFault

theorem Obstructed.unique (covers : ∀ name ∈ op.key.placeholders, (bindings.get? name).isSome)
    {other : Fault} (first : op.Obstructed bindings effects value fault)
    (second : op.Obstructed bindings effects value other) : other = fault := by
  cases first with
  | guard _ breaks =>
      have broken := (op.guard.holds_eq_error_iff value fault).mpr breaks
      cases second with
      | guard _ breaks' =>
          have broken' := (op.guard.holds_eq_error_iff value other).mpr breaks'
          exact Except.error.inj (broken'.symm.trans broken)
      | key _ passes _ => simp [broken] at passes
  | key _ passes breaks =>
      have failed := (op.key.render_eq_error_iff covers).mpr breaks
      cases second with
      | guard _ breaks' =>
          simp [(op.guard.holds_eq_error_iff value other).mpr breaks'] at passes
      | key _ _ breaks' =>
          have failed' := (op.key.render_eq_error_iff covers).mpr breaks'
          exact Except.error.inj (failed'.symm.trans failed)

theorem not_obstructed_of_skipped (skipped : op.guard.holds value = .ok false) :
    ¬ op.Obstructed bindings effects value fault := by
  rintro (⟨-, breaks⟩ | ⟨-, passes, -⟩)
  · simp [(op.guard.holds_eq_error_iff value fault).mpr breaks] at skipped
  · simp [skipped] at passes

theorem not_obstructed_of_passed (passed : op.guard.holds value = .ok true)
    (rendered : op.mode = .invalidate → ¬ SegmentsBreak bindings op.key.segments fault) :
    ¬ op.Obstructed bindings effects value fault := by
  rintro (⟨-, breaks⟩ | ⟨invalidates, -, breaks⟩)
  · simp [(op.guard.holds_eq_error_iff value fault).mpr breaks] at passed
  · exact rendered invalidates breaks

theorem not_obstructed_of_unasked (caches : op.mode = .cache)
    (unasked : ¬ op.AsksGuard effects) : ¬ op.Obstructed bindings effects value fault := by
  rintro (⟨asked, -⟩ | ⟨invalidates, -⟩)
  · exact unasked asked
  · simp [caches] at invalidates

/-- The two ways in which a call ends whose operation returned a value. -/
def Ends (op : Operation) (bindings : Bindings) (effects : List Effect) (value : Value)
    (result : Except Fault Value) : Prop :=
  (∃ fault, op.Obstructed bindings effects value fault ∧ result = .error fault) ∨
    (∀ fault, ¬ op.Obstructed bindings effects value fault) ∧ Reached value result

/-! ## After the operation has run -/

theorem WriteEnds.reached {action : WriteAction} {answer : Except Fault Value} {row : LogRow}
    (ends : op.WriteEnds action key value answer row result) : Reached value result := by
  cases ends with
  | raised fault => exact .unwritten _ _ _ _ _
  | refused => exact .unwritten _ _ _ _ _
  | taken _ => exact .returned

theorem WriteRun.reached {action : WriteAction} {request : Request}
    (run : op.WriteRun action request key value effects result) : Reached value result := by
  cases run with
  | mk answer ends => exact ends.reached

theorem WriteRun.not_ran {action : WriteAction} {request : Request}
    (run : op.WriteRun action request key value effects result) (outcome : Except Fault Value) :
    .ran outcome ∉ effects := by
  cases run with
  | mk answer ends => simp

theorem GuardedRun.of_ran {row : LogRow}
    {Passed : Value → List Effect → Except Fault Value → Prop}
    (run : op.GuardedRun row Passed effects result) (ran : .ran (.ok value) ∈ effects)
    (quiet : ∀ {value effects result}, Passed value effects result →
      ∀ outcome, .ran outcome ∉ effects) :
    (∃ fault, op.guard.holds value = .error fault ∧ result = .error fault) ∨
      (op.guard.holds value = .ok false ∧ result = .ok value) ∨
      (op.guard.holds value = .ok true ∧ ∃ rest, Passed value rest result) := by
  cases run with
  | raised fault => simp at ran
  | undecided guard =>
      obtain rfl : value = _ := by simpa using ran
      exact .inl ⟨_, guard, rfl⟩
  | skipped guard =>
      obtain rfl : value = _ := by simpa using ran
      exact .inr (.inl ⟨guard, rfl⟩)
  | passed guard rest =>
      obtain rfl : value = _ := by simpa [quiet rest] using ran
      exact .inr (.inr ⟨guard, _, rest⟩)

theorem CacheRun.ends (caches : op.mode = .cache)
    (run : op.CacheRun bindings config effects result) (ran : .ran (.ok value) ∈ effects) :
    op.Ends bindings effects value result := by
  cases run with
  | unrendered failed => simp at ran
  | hit rendered isHit => simp at ran
  | readFailed rendered fault result =>
      obtain rfl : .ok value = result := by simpa using ran
      refine .inr ⟨fun other => not_obstructed_of_unasked caches ?_, .returned⟩
      simp [AsksGuard, caches]
  | @unavailable key answer rendered down result =>
      obtain rfl : .ok value = result := by simpa using ran
      refine .inr ⟨fun other => not_obstructed_of_unasked caches ?_, .returned⟩
      rintro (invalidates | ⟨config, key, held, asked, misses⟩)
      · simp [caches] at invalidates
      · obtain ⟨-, rfl⟩ : _ ∧ held = answer := by simpa using asked
        exact down.not_misses misses
  | @missed key answer effects result rendered noHit available rest =>
      have asked : op.AsksGuard
          (.asked (.get config key) (.ok (.value answer)) :: .logged (op.missRow key) ::
            effects) :=
        .inr ⟨config, key, answer, List.mem_cons_self, .mk noHit available⟩
      have ranRest : .ran (.ok value) ∈ effects := by simpa using ran
      obtain ⟨fault, broken, rfl⟩ | ⟨skipped, rfl⟩ | ⟨passed, _, write⟩ :=
        rest.of_ran ranRest fun write => write.not_ran
      · exact .inl ⟨fault, .guard asked ((op.guard.holds_eq_error_iff value fault).mp broken), rfl⟩
      · exact .inr ⟨fun _ => not_obstructed_of_skipped skipped, .returned⟩
      · refine .inr ⟨fun _ => not_obstructed_of_passed passed fun invalidates => ?_, write.reached⟩
        simp [caches] at invalidates

theorem DeleteRun.not_ran (run : op.DeleteRun bindings config value effects result)
    (outcome : Except Fault Value) : .ran outcome ∉ effects := by
  cases run with
  | unrendered failed => simp
  | deleted rendered write => exact write.not_ran outcome

theorem InvalidateRun.ends (invalidates : op.mode = .invalidate)
    (covers : ∀ name ∈ op.key.placeholders, (bindings.get? name).isSome)
    (run : op.InvalidateRun bindings config effects result) (ran : .ran (.ok value) ∈ effects) :
    op.Ends bindings effects value result := by
  obtain ⟨fault, broken, rfl⟩ | ⟨skipped, rfl⟩ | ⟨passed, _, rest⟩ :=
    GuardedRun.of_ran run ran fun rest => rest.not_ran
  · exact .inl ⟨fault, .guard (.inl invalidates)
      ((op.guard.holds_eq_error_iff value fault).mp broken), rfl⟩
  · exact .inr ⟨fun _ => not_obstructed_of_skipped skipped, .returned⟩
  · cases rest with
    | @unrendered fault failed =>
        have breaks := (op.key.render_eq_error_iff covers).mp failed
        exact .inl ⟨fault, .key invalidates passed breaks, rfl⟩
    | deleted rendered write =>
        refine .inr ⟨fun other => not_obstructed_of_passed passed fun _ breaks => ?_,
          write.reached⟩
        simp [(op.key.render_eq_error_iff covers).mpr breaks] at rendered

/-! ## Calls -/

/-- All names of the operation have to be bound; otherwise its key may lack a value. -/
theorem result_reaches_caller_iff {σ : Type} {h : Handler σ} (atOnce : h.AnswersAtOnce)
    (catchable : h.FailsCatchably) {declaration : Declaration} {op : Operation}
    (registered : declaration.operation = .ok op) {bindings : Bindings}
    (covers : ∀ name ∈ op.argumentNames, (bindings.get? name).isSome) (style : CallStyle)
    (config : Value) (s : σ) {value : Value}
    (ran : .ran (.ok value) ∈ (op.interception style bindings config).trace h s) :
    let effects := (op.interception style bindings config).trace h s
    let result := (op.interception style bindings config).result h s
    (Reached value result ↔ ¬ ∃ fault, op.Obstructed bindings effects value fault) ∧
      ∀ fault, op.Obstructed bindings effects value fault → result = .error fault := by
  intro effects result
  have covered : ∀ name ∈ op.key.placeholders, (bindings.get? name).isSome :=
    fun name member => covers name (declaration.placeholders_bound registered name member)
  have follows := op.interception_follows atOnce catchable style bindings config s
  have ends : op.Ends bindings effects value result := by
    cases mode : op.mode with
    | cache =>
        simp only [mode] at follows
        exact follows.ends mode ran
    | invalidate =>
        simp only [mode] at follows
        exact follows.ends mode covered ran
  obtain ⟨fault, obstructed, failed⟩ | ⟨clear, reached⟩ := ends
  · constructor
    · rw [failed]
      exact iff_of_false obstructed.not_reached fun none => none ⟨fault, obstructed⟩
    · intro other obstructed'
      rw [failed, obstructed.unique covered obstructed']
  · exact ⟨iff_of_true reached fun ⟨fault, obstructed⟩ => clear fault obstructed,
      fun fault obstructed => absurd obstructed (clear fault)⟩

def closeAccount : Declaration where
  name := "app.close_account/1"
  argumentNames := ["user"]
  mode := .text "invalidate"
  template := .text "account:\x7buser\x7d"
  guard := .unset
  options := []

def refusal (name : String) : ReadFailure :=
  ⟨.mk .runtime (some ("attr " ++ name)) none none false, rfl⟩

def withholding (name : String) : Value :=
  .refusing [(.attribute name, refusal name)] (.object none [] .absent false .absent)

/-- The account is closed, but the user cannot be written into a key. -/
theorem result_reaches_caller_iff_unprintable_user :
    let h := Handler.fixed (fun _ => .ok (.flag true)) (.ok (.text "closed"))
    let bindings : Bindings := [("user", withholding dumpName)]
    ∃ op, closeAccount.operation = .ok op ∧
      h.AnswersAtOnce ∧ h.FailsCatchably ∧
      (∀ name ∈ op.argumentNames, (bindings.get? name).isSome) ∧
      .ran (.ok (.text "closed")) ∈ (op.interception .awaiting bindings .null).trace h () ∧
      ¬ Reached (.text "closed") ((op.interception .awaiting bindings .null).result h ()) ∧
      (op.interception .awaiting bindings .null).result h () =
        .error (.readRefused (refusal dumpName)) := by
  intro h bindings
  have atOnce : h.AnswersAtOnce := Handler.fixed_answersAtOnce _ _
  have catchable : h.FailsCatchably := Handler.fixed_failsCatchably (by simp) _
  have covers : ∀ name ∈ closeAccount.argumentNames, (bindings.get? name).isSome := by
    simp [closeAccount, bindings, Table.get?]
  refine ⟨_, rfl, atOnce, catchable, covers, .head _, ?_⟩
  obtain ⟨reached, failed⟩ := result_reaches_caller_iff atOnce catchable
    (show closeAccount.operation = _ from rfl) covers .awaiting .null () (.head _)
  exact ⟨fun told => reached.mp told ⟨_, .key rfl rfl (.later rfl (.here rfl rfl))⟩,
    failed _ (.key rfl rfl (.later rfl (.here rfl rfl)))⟩

def findAccount : Declaration where
  name := "app.find_account/1"
  argumentNames := ["user"]
  mode := .text "cache"
  template := .text "account:\x7buser\x7d"
  guard := .pattern (.record .opaqueObject [("status", .exact (.text "open"))])
  options := []

/-- An account was found, but its status cannot be read. -/
theorem unreadable_result_withheld :
    let h := Handler.fixed (fun _ => .ok .null) (.ok (withholding "status"))
    let bindings : Bindings := [("user", .text "7")]
    ∃ op, findAccount.operation = .ok op ∧
      h.AnswersAtOnce ∧ h.FailsCatchably ∧
      (∀ name ∈ op.argumentNames, (bindings.get? name).isSome) ∧
      .ran (.ok (withholding "status")) ∈ (op.interception .direct bindings .null).trace h () ∧
      (op.interception .direct bindings .null).result h () =
        .error (.readRefused (refusal "status")) ∧
      ¬ Reached (withholding "status") ((op.interception .direct bindings .null).result h ()) := by
  intro h bindings
  refine ⟨_, rfl, Handler.fixed_answersAtOnce _ _, Handler.fixed_failsCatchably (by simp) _,
    ?covers, .tail _ (.tail _ (.head _)), rfl, nofun⟩
  case covers => simp [findAccount, bindings, Table.get?]

end Operation

end CachePolicy
