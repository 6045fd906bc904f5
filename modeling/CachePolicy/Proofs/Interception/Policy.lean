import CachePolicy.Proofs.Interception.Runs

/-!
# What a call does

The effects of a call in full: which requests a backend gets, in which order and with
which arguments, how often the operation runs, and what the caller is given.
-/

namespace CachePolicy

namespace Effect

/-- The effects of a run on the backend and the operation. -/
def calls (effects : List Effect) : List Effect := effects.filter fun effect => !effect.isLogged

def requests (effects : List Effect) : List Request := effects.filterMap request?

def runs (effects : List Effect) : List (Except Fault Value) := effects.filterMap ranWith?

@[simp] theorem requests_nil : requests [] = [] := rfl

@[simp] theorem requests_cons (effect : Effect) (rest : List Effect) :
    requests (effect :: rest) = effect.request?.toList ++ requests rest := by
  cases effect <;> rfl

@[simp] theorem runs_nil : runs [] = [] := rfl

@[simp] theorem runs_cons (effect : Effect) (rest : List Effect) :
    runs (effect :: rest) = effect.ranWith?.toList ++ runs rest := by
  cases effect <;> rfl

end Effect

open Effect

/-! ## Answers -/

/-- The answer to a read is a hit with a value. -/
inductive Spares : Except Fault Value → Value → Prop
  | mk {held value : Value} (isHit : Hit held value) : Spares (.ok held) value

/-- The backend was read and had nothing. -/
inductive Misses : Except Fault Value → Prop
  | mk {held : Value} (noHit : ∀ value, ¬ Hit held value) (available : ¬ Unavailable held) :
      Misses (.ok held)

/-- A reply to a write that reports a failure: a fault, or false itself. -/
inductive WriteFails : Except Fault Reply → Prop
  | raised (fault : Fault) : WriteFails (.error fault)
  | refused : WriteFails (.ok (.value (.flag false)))

theorem Hit.unique {held value value' : Value} (first : Hit held value)
    (second : Hit held value') : value' = value := by
  rw [← (Lookup.found_ofReply_iff.mpr first).2, ← (Lookup.found_ofReply_iff.mpr second).2]

theorem Spares.unique {answer : Except Fault Value} {value value' : Value}
    (first : Spares answer value) (second : Spares answer value') : value' = value := by
  cases first with
  | mk isHit =>
      cases second with
      | mk isHit' => exact isHit.unique isHit'

theorem Hit.not_misses {held value : Value} (isHit : Hit held value) : ¬ Misses (.ok held) := by
  rintro ⟨noHit, -⟩
  exact noHit value isHit

theorem not_spares_error (fault : Fault) (value : Value) : ¬ Spares (.error fault) value := nofun

theorem not_misses_error (fault : Fault) : ¬ Misses (.error fault) := nofun

theorem Unavailable.not_spares {held : Value} (down : Unavailable held) (value : Value) :
    ¬ Spares (.ok held) value := by
  rintro ⟨isHit⟩
  obtain ⟨inner, rfl⟩ := down
  cases isHit with
  | bare _ noLookup => exact noLookup _ _ rfl

theorem Unavailable.not_misses {held : Value} (down : Unavailable held) :
    ¬ Misses (.ok held) := by
  rintro ⟨-, available⟩
  exact available down

/-! ## The two policies -/

namespace Operation

structure ReadsThrough (op : Operation) (config : Value) (key : String)
    (answer : Except Fault Value) (effects : List Effect) (result : Except Fault Value) :
    Prop where
  read_first : effects.head? = some (.asked (.get config key) (answer.map .value))
  read_once : (requests effects).countP (fun request => request.method = "get") = 1
  spared_iff : runs effects = [] ↔ ∃ value, Spares answer value
  hit_returned : ∀ value, Spares answer value → result = .ok value
  run_once : (∀ value, ¬ Spares answer value) → ∃ outcome, runs effects = [outcome]
  put_iff : (∃ request ∈ requests effects, request.method = "put") ↔
    Misses answer ∧ ∃ value, runs effects = [.ok value] ∧ op.guard.holds value = .ok true
  put_last : ∀ request ∈ requests effects, request.method = "put" →
    ∃ value reply, calls effects =
      [.asked (.get config key) (answer.map .value), .ran (.ok value),
        .asked (.put config key value op.options) reply]
  delete_never : ∀ request ∈ requests effects, request.method ≠ "delete"

structure RunsThenDeletes (op : Operation) (config : Value) (key : String)
    (effects : List Effect) : Prop where
  run_first : ∃ outcome, effects.head? = some (.ran outcome) ∧ runs effects = [outcome]
  delete_iff : (∃ request ∈ requests effects, request.method = "delete") ↔
    ∃ value, runs effects = [.ok value] ∧ op.guard.holds value = .ok true
  delete_only : ∀ request ∈ requests effects, ∃ value reply,
    calls effects = [.ran (.ok value), .asked (.delete config key) reply]

/-- What the caller is given once the operation has run. -/
structure Delivers (op : Operation) (action : WriteAction) (key : String)
    (effects : List Effect) (result : Except Fault Value) : Prop where
  raised : ∀ fault, .ran (.error fault) ∈ effects → result = .error fault
  returned : ∀ value, .ran (.ok value) ∈ effects →
    (∀ request reply, .asked request reply ∈ effects → request.method = action.name →
      ¬ WriteFails reply) → result = .ok value
  write_raised : ∀ request fault, .asked request (.error fault) ∈ effects →
    request.method = action.name →
      result = .error (.contract action.name op.name key fault.message (some fault))
  write_refused : ∀ request, .asked request (.ok (.value (.flag false))) ∈ effects →
    request.method = action.name →
      result = .error (.contract action.name op.name key "backend returned False" none)

variable {op : Operation} {bindings : Bindings} {config : Value} {key : String}
  {effects : List Effect} {result : Except Fault Value}

theorem CacheRun.readsThrough (run : op.CacheRun bindings config effects result)
    (rendered : op.key.render bindings = .ok key) :
    ∃ answer, op.ReadsThrough config key answer effects result := by
  cases run with
  | unrendered failed => simp [rendered] at failed
  | @hit key' held value same isHit =>
      obtain rfl : key' = key := by simpa [rendered] using same.symm
      have spares : Spares (.ok held) value := .mk isHit
      refine ⟨.ok held, ?_⟩
      constructor
      case spared_iff => simpa using ⟨value, spares⟩
      case hit_returned => exact fun value' other => by rw [spares.unique other]
      case run_once => exact fun none => absurd spares (none value)
      all_goals simp [Request.method, Except.map, isHit.not_misses]
  | @readFailed key' same fault result =>
      obtain rfl : key' = key := by simpa [rendered] using same.symm
      refine ⟨.error fault, ?_⟩
      constructor <;>
        simp [Request.method, Except.map, not_spares_error, not_misses_error]
  | @unavailable key' held same down result =>
      obtain rfl : key' = key := by simpa [rendered] using same.symm
      refine ⟨.ok held, ?_⟩
      constructor <;> simp [Request.method, Except.map, down.not_spares, down.not_misses]
  | @missed key' held effects result same noHit available rest =>
      obtain rfl : key' = key := by simpa [rendered] using same.symm
      have noSpare : ∀ value, ¬ Spares (.ok held) value := fun value ⟨isHit⟩ => noHit value isHit
      have misses : Misses (.ok held) := .mk noHit available
      refine ⟨.ok held, ?_⟩
      cases rest with
      | raised fault => constructor <;> simp [Request.method, Except.map, noSpare]
      | undecided guard => constructor <;> simp [Request.method, Except.map, noSpare, guard]
      | skipped guard => constructor <;> simp [Request.method, Except.map, noSpare, guard]
      | passed guard rest =>
          cases rest with
          | mk reply ends =>
              constructor <;>
                simp [Request.method, Except.map, noSpare, misses, guard, calls]

/-! ## What the caller is given -/

variable {action : WriteAction}

theorem Delivers.logged (delivers : op.Delivers action key effects result) (row : LogRow) :
    op.Delivers action key (.logged row :: effects) result where
  raised fault ran := delivers.raised fault (by simpa using ran)
  returned value ran unfailed := delivers.returned value (by simpa using ran)
    fun request reply asked => unfailed request reply (List.mem_cons_of_mem _ asked)
  write_raised request fault asked := delivers.write_raised request fault (by simpa using asked)
  write_refused request asked := delivers.write_refused request (by simpa using asked)

theorem Delivers.read (delivers : op.Delivers .put key effects result) (config : Value)
    (place : String) (reply : Except Fault Reply) :
    op.Delivers .put key (.asked (.get config place) reply :: effects) result where
  raised fault ran := delivers.raised fault (by simpa using ran)
  returned value ran unfailed := delivers.returned value (by simpa using ran)
    fun request reply asked => unfailed request reply (List.mem_cons_of_mem _ asked)
  write_raised request fault asked isPut := by
    rcases List.mem_cons.mp asked with same | asked
    · cases same
      simp [Request.method, WriteAction.name] at isPut
    · exact delivers.write_raised request fault asked isPut
  write_refused request asked isPut := by
    rcases List.mem_cons.mp asked with same | asked
    · cases same
      simp [Request.method, WriteAction.name] at isPut
    · exact delivers.write_refused request asked isPut

theorem delivers_ran (action : WriteAction) (result : Except Fault Value) :
    op.Delivers action key [.ran result] result := by
  constructor <;> simp [eq_comm]

theorem delivers_nothing (action : WriteAction) (result : Except Fault Value) :
    op.Delivers action key [] result := by
  constructor <;> simp

theorem WriteRun.delivers {request : Request} {value : Value}
    (run : op.WriteRun action request key value effects result)
    (isWrite : request.method = action.name) :
    op.Delivers action key (.ran (.ok value) :: effects) result := by
  cases run with
  | mk answer ends =>
      cases ends with
      | raised fault =>
          constructor <;> simp [Except.map, isWrite, WriteFails.raised]
      | refused =>
          constructor <;> simp [Except.map, isWrite, WriteFails.refused]
      | taken taken =>
          constructor <;> simp [Except.map, Ne.symm taken]

theorem GuardedRun.delivers {row : LogRow}
    {Passed : Value → List Effect → Except Fault Value → Prop}
    (run : op.GuardedRun row Passed effects result)
    (decides : ∀ value, .ran (.ok value) ∈ effects → ∃ passes, op.guard.holds value = .ok passes)
    (passed : ∀ {value effects result}, Passed value effects result →
      op.Delivers action key (.ran (.ok value) :: effects) result) :
    op.Delivers action key effects result := by
  cases run with
  | raised fault => exact delivers_ran action _
  | undecided guard =>
      obtain ⟨passes, decided⟩ := decides _ List.mem_cons_self
      simp [guard] at decided
  | skipped guard => constructor <;> simp
  | passed guard rest => exact passed rest

theorem CacheRun.delivers (run : op.CacheRun bindings config effects result)
    (rendered : op.key.render bindings = .ok key)
    (decides : ∀ value, .ran (.ok value) ∈ effects →
      ∃ passes, op.guard.holds value = .ok passes) :
    op.Delivers .put key effects result := by
  cases run with
  | unrendered failed => simp [rendered] at failed
  | hit same isHit => exact ((delivers_nothing .put _).logged _).read config _ _
  | readFailed same fault result => exact ((delivers_ran .put _).logged _).read config _ _
  | unavailable same down result => exact ((delivers_ran .put _).logged _).read config _ _
  | @missed key' held effects result same noHit available rest =>
      obtain rfl : key' = key := by simpa [rendered] using same.symm
      have guarded : op.Delivers .put key' effects result :=
        rest.delivers (fun value ran => decides value (by simp [ran]))
          fun write => write.delivers rfl
      exact (guarded.logged _).read config _ _

theorem InvalidateRun.delivers (run : op.InvalidateRun bindings config effects result)
    (rendered : op.key.render bindings = .ok key)
    (decides : ∀ value, .ran (.ok value) ∈ effects →
      ∃ passes, op.guard.holds value = .ok passes) :
    op.Delivers .delete key effects result := by
  refine GuardedRun.delivers run decides fun rest => ?_
  cases rest with
  | unrendered failed => simp [rendered] at failed
  | @deleted key' effects result same write =>
      obtain rfl : key' = key := by simpa [rendered] using same.symm
      exact write.delivers rfl

theorem InvalidateRun.runsThenDeletes (run : op.InvalidateRun bindings config effects result)
    (rendered : op.key.render bindings = .ok key) :
    op.RunsThenDeletes config key effects := by
  cases run with
  | raised fault => constructor <;> simp
  | undecided guard => constructor <;> simp [guard]
  | skipped guard => constructor <;> simp [guard]
  | passed guard rest =>
      cases rest with
      | unrendered failed => simp [rendered] at failed
      | @deleted key' effects result same write =>
          obtain rfl : key' = key := by simpa [rendered] using same.symm
          cases write with
          | mk answer ends => constructor <;> simp [Request.method, guard, calls]

/-! ## Calls -/

theorem interception_effects {σ : Type} {h : Handler σ} (atOnce : h.AnswersAtOnce)
    (catchable : h.FailsCatchably) (op : Operation) (style : CallStyle) (bindings : Bindings)
    (config : Value) (key : String) (rendered : op.key.render bindings = .ok key) (s : σ)
    (decides : ∀ value, .ran (.ok value) ∈ (op.interception style bindings config).trace h s →
      ∃ passes, op.guard.holds value = .ok passes) :
    let effects := (op.interception style bindings config).trace h s
    let result := (op.interception style bindings config).result h s
    (op.mode = .cache →
      (∃ answer, op.ReadsThrough config key answer effects result) ∧
        op.Delivers .put key effects result) ∧
    (op.mode = .invalidate →
      op.RunsThenDeletes config key effects ∧ op.Delivers .delete key effects result) := by
  have follows := op.interception_follows atOnce catchable style bindings config s
  constructor
  · intro mode
    simp only [mode] at follows
    exact ⟨follows.readsThrough rendered, follows.delivers rendered decides⟩
  · intro mode
    simp only [mode] at follows
    exact ⟨follows.runsThenDeletes rendered, follows.delivers rendered decides⟩

/-- A miss, a result that passes the guard, and a put that is answered with zero. -/
theorem interception_effects_zero_answer :
    let h := Handler.fixed (fun request => match request with
      | .get _ _ => .ok .null
      | _ => .ok (.int 0)) (.ok (.tuple [.text "ok", .int 7]))
    let call := findUser.interception .direct [("user", .text "7")] .null
    h.AnswersAtOnce ∧ h.FailsCatchably ∧
      findUser.key.render [("user", .text "7")] = .ok "user:7" ∧
      (∃ answer, findUser.ReadsThrough .null "user:7" answer (call.trace h ())
        (call.result h ())) ∧
      findUser.Delivers .put "user:7" (call.trace h ()) (call.result h ()) := by
  intro h call
  have atOnce : h.AnswersAtOnce := Handler.fixed_answersAtOnce _ _
  have catchable : h.FailsCatchably := Handler.fixed_failsCatchably (by
    intro request fault failed
    cases request <;> simp at failed) _
  have rendered : findUser.key.render [("user", .text "7")] = .ok "user:7" := rfl
  refine ⟨atOnce, catchable, rendered, ?_⟩
  refine (interception_effects atOnce catchable findUser .direct _ .null "user:7" rendered ()
    ?_).1 rfl
  intro value ran
  have ranOnce : runs (call.trace h ()) = [.ok (.tuple [.text "ok", .int 7])] := rfl
  have isRun : .ok value ∈ runs (call.trace h ()) := List.mem_filterMap.mpr ⟨_, ran, rfl⟩
  obtain rfl : value = .tuple [.text "ok", .int 7] := by simpa [ranOnce] using isRun
  exact ⟨true, rfl⟩

end Operation

end CachePolicy
