import CachePolicy.Proofs.Interception.Trace

/-!
# Calls at once and calls that wait

The policy stands twice, once for answers that are taken at once and once for answers
that are awaited.  The two programs agree: they do the same with every answer that is
there at once, and the second waits for a pending answer and goes on as if it had been
there.  So a backend may answer at once or later, and nothing else that a call does
depends on it.
-/

namespace CachePolicy

/-! ## Agreement of programs -/

namespace Program

inductive Agrees : Program → Program → Prop
  | done (result : Except Fault Value) : Agrees (.done result) (.done result)
  | log (row : LogRow) {rest rest' : Program} :
      Agrees rest rest' → Agrees (.log row rest) (.log row rest')
  | run {next next' : Except Fault Value → Program} :
      (∀ result, Agrees (next result) (next' result)) → Agrees (.run next) (.run next')
  | answered (request : Request) {next : Except Fault Reply → Program}
      {next' : Except Fault Value → Program} :
      (∀ answer : Except Fault Value, Agrees (next (answer.map .value)) (next' answer)) →
        Agrees (.ask request next) (.answered request next')

theorem Agrees.unlessFault {α : Type} {next next' : α → Program}
    (agrees : ∀ a, Agrees (next a) (next' a)) (result : Except Fault α) :
    Agrees (unlessFault next result) (unlessFault next' result) := by
  cases result with
  | error fault => exact .done _
  | ok a => exact agrees a

/-- The handler of a program that takes its answers at once covers the request only; that of a
program that waits covers the answer too. -/
theorem Agrees.caught {recover : Fault → Program} {next : Reply → Program}
    {next' : Value → Program} (recovers : ∀ fault, Agrees (recover fault) (recover fault))
    (agrees : ∀ v, Agrees (next (.value v)) (next' v)) (answer : Except Fault Value) :
    Agrees (caught recover next (answer.map .value)) (caught recover next' answer) := by
  cases answer with
  | error fault =>
      change Agrees (if fault.isInterrupt then .done (.error fault) else recover fault)
        (if fault.isInterrupt then .done (.error fault) else recover fault)
      split
      · exact .done _
      · exact recovers fault
  | ok v => exact agrees v

end Program

namespace Operation

variable (op : Operation)

theorem callThrough_agrees : Program.Agrees callThrough callThrough := .run .done

theorem writeFailed_agrees (action : WriteAction) (key : String) (fault : Option Fault) :
    Program.Agrees (op.writeFailed action key fault) (op.writeFailed action key fault) :=
  .log _ (.done _)

theorem writeAnswered_agrees (action : WriteAction) (key : String) (value answer : Value) :
    Program.Agrees (op.writeAnswered action key value answer)
      (op.writeAnswered action key value answer) := by
  unfold writeAnswered
  split
  · exact op.writeFailed_agrees action key none
  · exact .log _ (.done _)

theorem write_agrees (action : WriteAction) (request : Request) (key : String) (value : Value) :
    Program.Agrees (op.write action request key value)
      (op.writeAwaiting action request key value) :=
  .answered request (.caught (fun fault => op.writeFailed_agrees action key (some fault))
    (op.writeAnswered_agrees action key value))

theorem ifGuarded_agrees (value : Value) {passed passed' : Program} (row : LogRow)
    (agrees : Program.Agrees passed passed') :
    Program.Agrees (op.ifGuarded value passed row) (op.ifGuarded value passed' row) := by
  unfold ifGuarded
  split
  · exact .done _
  · exact agrees
  · exact .log _ (.done _)

theorem afterLookup_agrees (key : String) {store store' : Value → Program} (lookup : Lookup)
    (agrees : ∀ value, Program.Agrees (store value) (store' value)) :
    Program.Agrees (op.afterLookup key store lookup) (op.afterLookup key store' lookup) := by
  unfold afterLookup
  split
  · exact .log _ (.done _)
  split
  · exact .log _ callThrough_agrees
  · exact .log _ (.run (.unlessFault fun value => op.ifGuarded_agrees value _ (agrees value)))

theorem intercept_agrees (bindings : Bindings) (config : Value) :
    Program.Agrees (op.intercept bindings config) (op.interceptAwaiting bindings config) := by
  unfold intercept interceptAwaiting
  cases op.mode with
  | cache =>
      refine .unlessFault (fun key => ?_) _
      refine .answered _ (.caught (fun fault => .log _ callThrough_agrees) fun answer => ?_)
      exact op.afterLookup_agrees key _ fun value => op.write_agrees _ _ key value
  | invalidate =>
      refine .run (.unlessFault fun value => ?_)
      refine op.ifGuarded_agrees value _ (.unlessFault (fun key => ?_) _)
      exact op.write_agrees _ _ key value

end Operation

/-! ## Backends that answer later -/

/-- A backend whose answers to some requests are there only when they are awaited, and which
carries such a request out only then. -/
def Handler.deferring {σ : Type} (h : Handler σ) (late : Request → σ → Bool) : Handler σ where
  log := h.log
  ask request s := if late request s then (.ok .pending, s) else h.ask request s
  await request s :=
    match h.ask request s with
    | (.error fault, s) => (.error fault, s)
    | (.ok (.value v), s) => (.ok v, s)
    | (.ok .pending, s) => h.await request s
  run := h.run

/-- What a call does, without what it is told and when. -/
inductive Act where
  | called (request : Request)
  | ran (result : Except Fault Value)
  | logged (row : LogRow)

def Effect.act? : Effect → Option Act
  | logged row => some (.logged row)
  | asked request _ => some (.called request)
  | awaited _ _ => none
  | ran result => some (.ran result)

namespace Program

variable {σ : Type} {h : Handler σ}

def acts (h : Handler σ) (p : Program) (s : σ) : List Act := (p.trace h s).filterMap Effect.act?

section

variable {request : Request} {s : σ} {answer : Except Fault Value}
  (asked : (h.ask request s).1 = answer.map .value) (next : Except Fault Value → Program)

include asked

theorem exec_answered :
    (answered request next).exec h s = (next answer).exec h (h.ask request s).2 := by
  cases answer <;> simp [answered, exec_ask, asked, Except.map]

theorem trace_answered :
    (answered request next).trace h s =
      .asked request (answer.map .value) :: (next answer).trace h (h.ask request s).2 := by
  cases answer <;> simp [answered, trace, asked, Except.map]

theorem await_deferring (late : Request → σ → Bool) :
    (h.deferring late).await request s = (answer, (h.ask request s).2) := by
  have whole : h.ask request s = (answer.map .value, (h.ask request s).2) := by
    rw [← asked]
  simp only [Handler.deferring]
  rw [whole]
  cases answer <;> rfl

theorem exec_answered_deferring (late : Request → σ → Bool) :
    (answered request next).exec (h.deferring late) s =
      (next answer).exec (h.deferring late) (h.ask request s).2 := by
  have settled := await_deferring asked late
  cases deferred : late request s with
  | false =>
      have atOnce : (h.deferring late).ask request s = h.ask request s := by
        simp [Handler.deferring, deferred]
      cases answer <;> simp [answered, exec_ask, atOnce, asked, Except.map]
  | true =>
      have pending : (h.deferring late).ask request s = (.ok .pending, s) := by
        simp [Handler.deferring, deferred]
      simp [answered, exec_ask, exec_await, pending, settled]

theorem acts_answered_deferring (late : Request → σ → Bool) :
    (answered request next).acts (h.deferring late) s =
      .called request :: (next answer).acts (h.deferring late) (h.ask request s).2 := by
  have settled := await_deferring asked late
  cases deferred : late request s with
  | false =>
      have atOnce : (h.deferring late).ask request s = h.ask request s := by
        simp [Handler.deferring, deferred]
      cases answer <;> simp [acts, answered, trace, atOnce, asked, Except.map, Effect.act?]
  | true =>
      have pending : (h.deferring late).ask request s = (.ok .pending, s) := by
        simp [Handler.deferring, deferred]
      simp [acts, answered, trace, pending, settled, List.filterMap_cons, Effect.act?]

end

section

variable {p q : Program} (agrees : Agrees p q) (atOnce : h.AnswersAtOnce)

include agrees atOnce

theorem Agrees.exec_eq (s : σ) : q.exec h s = p.exec h s := by
  induction agrees generalizing s with
  | done result => rfl
  | log row _ ih => exact ih _
  | run _ ih => exact ih _ _
  | answered request _ ih =>
      obtain ⟨answer, asked⟩ := atOnce.reply request s
      rw [exec_answered asked, ih, exec_ask, asked]

theorem Agrees.trace_eq (s : σ) : q.trace h s = p.trace h s := by
  induction agrees generalizing s with
  | done result => rfl
  | log row _ ih => exact congrArg _ (ih _)
  | run _ ih => exact congrArg _ (ih _ _)
  | answered request _ ih =>
      obtain ⟨answer, asked⟩ := atOnce.reply request s
      rw [trace_answered asked, ih, trace, asked]

theorem Agrees.exec_deferring (late : Request → σ → Bool) (s : σ) :
    q.exec (h.deferring late) s = p.exec h s := by
  induction agrees generalizing s with
  | done result => rfl
  | log row _ ih => exact ih _
  | run _ ih => exact ih _ _
  | answered request _ ih =>
      obtain ⟨answer, asked⟩ := atOnce.reply request s
      rw [exec_answered_deferring asked, ih, exec_ask, asked]

theorem Agrees.acts_deferring (late : Request → σ → Bool) (s : σ) :
    q.acts (h.deferring late) s = p.acts h s := by
  induction agrees generalizing s with
  | done result => rfl
  | log row _ ih => exact congrArg (.logged row :: ·) (ih _)
  | run _ ih => exact congrArg (.ran (h.run s).1 :: ·) (ih _ _)
  | answered request _ ih =>
      obtain ⟨answer, asked⟩ := atOnce.reply request s
      rw [acts_answered_deferring asked, ih]
      simp [acts, trace, asked, Effect.act?]

end

end Program

/-! ## Calls -/

namespace Operation

section

variable {σ : Type} {h : Handler σ} (atOnce : h.AnswersAtOnce) (op : Operation)
  (style : CallStyle) (bindings : Bindings) (config : Value) (s : σ)

include atOnce

theorem interception_exec_eq :
    (op.interception style bindings config).exec h s = (op.intercept bindings config).exec h s := by
  cases style with
  | direct => rfl
  | awaiting => exact (op.intercept_agrees bindings config).exec_eq atOnce s

theorem interception_trace_eq :
    (op.interception style bindings config).trace h s =
      (op.intercept bindings config).trace h s := by
  cases style with
  | direct => rfl
  | awaiting => exact (op.intercept_agrees bindings config).trace_eq atOnce s

end

/-- The three runs end in the same state with the same result, after the same requests with the
same arguments, the same runs of the operation and the same rows, in the same order. -/
theorem awaiting_calls_agree {σ : Type} {h : Handler σ} (atOnce : h.AnswersAtOnce)
    (op : Operation) (bindings : Bindings) (config : Value) (late : Request → σ → Bool)
    (s : σ) :
    let direct := op.intercept bindings config
    let awaiting := op.interceptAwaiting bindings config
    (awaiting.exec h s = direct.exec h s ∧ awaiting.acts h s = direct.acts h s) ∧
    (awaiting.exec (h.deferring late) s = direct.exec h s ∧
      awaiting.acts (h.deferring late) s = direct.acts h s) := by
  intro direct awaiting
  have agrees : direct.Agrees awaiting := op.intercept_agrees bindings config
  have sameActs : awaiting.acts h s = direct.acts h s := by
    rw [Program.acts, Program.acts, agrees.trace_eq atOnce]
  exact ⟨⟨agrees.exec_eq atOnce s, sameActs⟩,
    agrees.exec_deferring atOnce late s, agrees.acts_deferring atOnce late s⟩

/-- A miss, a result that passes the guard, and a put that fails, told only when it is awaited. -/
theorem awaiting_calls_agree_failed_put :
    let h := Handler.fixed (fun request => match request with
      | .get _ _ => .ok .null
      | _ => .error (.outside (.mk .connection (some "down") none none false)))
      (.ok (.tuple [.text "ok", .int 7]))
    let direct := findUser.intercept [("user", .text "7")] .null
    let awaiting := findUser.interceptAwaiting [("user", .text "7")] .null
    h.AnswersAtOnce ∧
    (awaiting.exec h () = direct.exec h () ∧ awaiting.acts h () = direct.acts h ()) ∧
    (awaiting.exec (h.deferring fun _ _ => true) () = direct.exec h () ∧
      awaiting.acts (h.deferring fun _ _ => true) () = direct.acts h ()) := by
  intro h direct awaiting
  have atOnce : h.AnswersAtOnce := Handler.fixed_answersAtOnce _ _
  exact ⟨atOnce, awaiting_calls_agree atOnce findUser _ _ (fun _ _ => true) ()⟩

end Operation

end CachePolicy
