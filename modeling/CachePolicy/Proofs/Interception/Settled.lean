import CachePolicy.Proofs.Interception.Policy

/-!
# Calls on backends that answer later

A call that waits does the same on a backend whose answers are pending as on one that has
them at once: the answer that it waited for stands in the place of the pending one.  So
what holds of calls that are answered at once holds of all calls, once the pending answers
are left out of what is seen of them.
-/

namespace CachePolicy

variable {σ : Type}

/-! ## What is seen of a run -/

/-- The answer that a reply brings, unless it is pending. -/
def answer? : Except Fault Reply → Option (Except Fault Value)
  | .error fault => some (.error fault)
  | .ok (.value v) => some (.ok v)
  | .ok .pending => none

@[simp] theorem answer?_map (answer : Except Fault Value) :
    answer? (answer.map .value) = some answer := by
  cases answer <;> rfl

@[simp] theorem answer?_error (fault : Fault) : answer? (.error fault) = some (.error fault) := rfl

@[simp] theorem answer?_value (v : Value) : answer? (.ok (.value v)) = some (.ok v) := rfl

@[simp] theorem answer?_pending : answer? (.ok .pending) = none := rfl

namespace Effect

@[simp] def row? : Effect → Option LogRow
  | logged row => some row
  | _ => none

/-- A request and the answer to it, which may have been waited for. -/
@[simp] def response? : Effect → Option (Request × Except Fault Value)
  | asked request reply => (answer? reply).map (request, ·)
  | awaited request answer => some (request, answer)
  | _ => none

/-- The effect as it is seen where nothing is pending. -/
@[simp] def settled? : Effect → Option Effect
  | asked request reply => (answer? reply).map fun answer => asked request (answer.map .value)
  | awaited request answer => some (asked request (answer.map .value))
  | logged row => some (logged row)
  | ran result => some (ran result)

def rows (effects : List Effect) : List LogRow := effects.filterMap row?

def responses (effects : List Effect) : List (Request × Except Fault Value) :=
  effects.filterMap response?

def settled (effects : List Effect) : List Effect := effects.filterMap settled?

@[simp] theorem rows_nil : rows [] = [] := rfl

@[simp] theorem rows_cons (effect : Effect) (rest : List Effect) :
    rows (effect :: rest) = effect.row?.toList ++ rows rest := by
  cases effect <;> rfl

@[simp] theorem responses_nil : responses [] = [] := rfl

@[simp] theorem responses_cons (effect : Effect) (rest : List Effect) :
    responses (effect :: rest) = effect.response?.toList ++ responses rest := by
  rw [responses, List.filterMap_cons]
  cases effect.response? <;> rfl

@[simp] theorem settled_cons (effect : Effect) (rest : List Effect) :
    settled (effect :: rest) = effect.settled?.toList ++ settled rest := by
  rw [settled, List.filterMap_cons]
  cases effect.settled? <;> rfl

variable (effects : List Effect)

@[simp] theorem rows_settled : rows (settled effects) = rows effects := by
  induction effects with
  | nil => rfl
  | cons effect rest ih =>
      cases effect with
      | asked request reply => cases reply' : answer? reply <;> simp [reply', ih]
      | _ => simp [ih]

@[simp] theorem responses_settled : responses (settled effects) = responses effects := by
  induction effects with
  | nil => rfl
  | cons effect rest ih =>
      cases effect with
      | asked request reply => cases reply' : answer? reply <;> simp [reply', ih]
      | _ => simp [ih]

@[simp] theorem runs_settled : runs (settled effects) = runs effects := by
  induction effects with
  | nil => rfl
  | cons effect rest ih =>
      cases effect with
      | asked request reply => cases reply' : answer? reply <;> simp [reply', ih]
      | _ => simp [ih]

theorem mem_runs_iff {effects : List Effect} {outcome : Except Fault Value} :
    outcome ∈ runs effects ↔ .ran outcome ∈ effects := by
  constructor
  · intro listed
    obtain ⟨effect, member, isRun⟩ := List.mem_filterMap.mp listed
    cases effect with
    | ran result =>
        cases isRun
        exact member
    | _ => cases isRun
  · exact fun member => List.mem_filterMap.mpr ⟨_, member, rfl⟩

end Effect

/-! ## Backends that have been waited for -/

namespace Handler

/-- The same surroundings, where the answer to a request is there as soon as it is asked. -/
def settled (h : Handler σ) : Handler σ where
  log := h.log
  ask request s :=
    match (h.ask request s).1 with
    | .ok .pending =>
        let (answer, s) := h.await request (h.ask request s).2
        (answer.map .value, s)
    | reply => (reply, (h.ask request s).2)
  await := h.await
  run := h.run

/-- No answer that is waited for is an interrupt. -/
def AwaitsCatchably (h : Handler σ) : Prop :=
  ∀ request s fault, (h.await request s).1 = .error fault → fault.isInterrupt = false

@[simp] theorem settled_log (h : Handler σ) : h.settled.log = h.log := rfl

@[simp] theorem settled_run (h : Handler σ) : h.settled.run = h.run := rfl

variable {h : Handler σ} {request : Request} {s : σ}

theorem settled_ask_pending (pending : (h.ask request s).1 = .ok .pending) :
    h.settled.ask request s =
      ((h.await request (h.ask request s).2).1.map .value,
        (h.await request (h.ask request s).2).2) := by
  simp [settled, pending]

theorem settled_ask_answered {answer : Except Fault Value}
    (answered : (h.ask request s).1 = answer.map .value) :
    h.settled.ask request s = (answer.map .value, (h.ask request s).2) := by
  cases answer <;> simp_all [settled, Except.map]

theorem answered_or_pending (h : Handler σ) (request : Request) (s : σ) :
    (∃ answer : Except Fault Value, (h.ask request s).1 = answer.map .value) ∨
      (h.ask request s).1 = .ok .pending := by
  cases (h.ask request s).1 with
  | error fault => exact .inl ⟨.error fault, rfl⟩
  | ok reply =>
      cases reply with
      | value v => exact .inl ⟨.ok v, rfl⟩
      | pending => exact .inr rfl

theorem settled_answersAtOnce (h : Handler σ) : h.settled.AnswersAtOnce := by
  intro request s
  rcases h.answered_or_pending request s with ⟨answer, answered⟩ | pending
  · rw [settled_ask_answered answered]
    cases answer <;> simp [Except.map]
  · rw [settled_ask_pending pending]
    cases (h.await request (h.ask request s).2).1 <;> simp [Except.map]

theorem settled_failsCatchably (catchable : h.FailsCatchably) (awaits : h.AwaitsCatchably) :
    h.settled.FailsCatchably := by
  intro request s fault failed
  rcases h.answered_or_pending request s with ⟨answer, answered⟩ | pending
  · rw [settled_ask_answered answered] at failed
    exact catchable request s fault (answered.trans failed)
  · rw [settled_ask_pending pending] at failed
    refine awaits request (h.ask request s).2 fault ?_
    cases waited : (h.await request (h.ask request s).2).1 <;> simp_all [Except.map]

end Handler

/-! ## Programs on such backends -/

namespace Program

open Effect

variable {h : Handler σ} {p q : Program}

theorem Agrees.exec_settled (agrees : Agrees p q) (s : σ) :
    q.exec h s = p.exec h.settled s := by
  induction agrees generalizing s with
  | done result => rfl
  | log row _ ih => exact ih _
  | run _ ih => exact ih _ _
  | answered request _ ih =>
      rcases h.answered_or_pending request s with ⟨answer, asked⟩ | pending
      · rw [exec_answered asked, ih, exec_ask, Handler.settled_ask_answered asked]
      · rw [Program.answered, exec_ask, exec_ask, Handler.settled_ask_pending pending, pending]
        exact ih _ _

theorem Agrees.trace_settled (agrees : Agrees p q) (s : σ) :
    settled (q.trace h s) = p.trace h.settled s := by
  induction agrees generalizing s with
  | done result => rfl
  | log row _ ih => simpa [trace] using ih (h.log row s)
  | run _ ih => simpa [trace] using ih (h.run s).1 (h.run s).2
  | answered request _ ih =>
      rcases h.answered_or_pending request s with ⟨answer, asked⟩ | pending
      · rw [trace_answered asked, trace, Handler.settled_ask_answered asked]
        simpa using ih answer (h.ask request s).2
      · rw [Program.answered, trace, trace, Handler.settled_ask_pending pending, pending]
        simpa [trace] using ih _ _

/-- Waiting for an answer is no further request. -/
theorem Agrees.requests_settled (agrees : Agrees p q) (s : σ) :
    requests (settled (q.trace h s)) = requests (q.trace h s) := by
  induction agrees generalizing s with
  | done result => rfl
  | log row _ ih => simpa [trace] using ih _
  | run _ ih => simpa [trace] using ih _ _
  | answered request _ ih =>
      rcases h.answered_or_pending request s with ⟨answer, asked⟩ | pending
      · rw [trace_answered asked]
        simpa using ih _ _
      · rw [Program.answered, trace, pending]
        simpa [trace] using ih _ _

end Program

/-! ## Calls -/

namespace Operation

open Effect

variable {h : Handler σ} (op : Operation) (style : CallStyle)
  (ready : style = .direct → h.AnswersAtOnce) (bindings : Bindings) (config : Value) (s : σ)

include ready

/-- A call that takes its answers at once waits for nothing where they are all there. -/
theorem interception_eq_awaiting :
    (op.interception style bindings config).exec h s =
        (op.interceptAwaiting bindings config).exec h s ∧
      (op.interception style bindings config).trace h s =
        (op.interceptAwaiting bindings config).trace h s := by
  cases style with
  | awaiting => exact ⟨rfl, rfl⟩
  | direct =>
      have agrees := op.intercept_agrees bindings config
      exact ⟨(agrees.exec_eq (ready rfl) s).symm, (agrees.trace_eq (ready rfl) s).symm⟩

theorem interception_settled :
    settled ((op.interception style bindings config).trace h s) =
        (op.intercept bindings config).trace h.settled s ∧
      (op.interception style bindings config).result h s =
        (op.intercept bindings config).result h.settled s ∧
      requests (settled ((op.interception style bindings config).trace h s)) =
        requests ((op.interception style bindings config).trace h s) := by
  have agrees := op.intercept_agrees bindings config
  obtain ⟨sameExec, sameTrace⟩ := op.interception_eq_awaiting style ready bindings config s
  rw [Program.result, sameExec, sameTrace, agrees.exec_settled]
  exact ⟨agrees.trace_settled s, rfl, agrees.requests_settled s⟩

/-- The shapes of runs, with the answers that were waited for in the place of the pending
ones. -/
theorem interception_follows_settled (catchable : h.FailsCatchably)
    (awaits : h.AwaitsCatchably) :
    (match op.mode with
      | .cache => op.CacheRun bindings config
      | .invalidate => op.InvalidateRun bindings config)
        (settled ((op.interception style bindings config).trace h s))
        ((op.interception style bindings config).result h s) := by
  obtain ⟨sameTrace, sameResult, -⟩ := op.interception_settled style ready bindings config s
  rw [sameTrace, sameResult]
  exact op.interception_follows h.settled_answersAtOnce
    (Handler.settled_failsCatchably catchable awaits) .direct bindings config s

end Operation

end CachePolicy
