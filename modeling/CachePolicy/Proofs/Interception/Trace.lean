import CachePolicy.Interception.Policy

/-!
# Traces of interceptions

What a program does to its surroundings, in the order in which a handler sees it.
`trace` follows the same tree as `exec`, so a run is known by its trace and its result.
-/

namespace CachePolicy

inductive Effect where
  | logged (row : LogRow)
  | asked (request : Request) (reply : Except Fault Reply)
  | awaited (request : Request) (answer : Except Fault Value)
  | ran (result : Except Fault Value)

variable {σ : Type}

namespace Program

def trace (h : Handler σ) : Program → σ → List Effect
  | done _, _ => []
  | log row rest, s => .logged row :: rest.trace h (h.log row s)
  | ask request next, s =>
      .asked request (h.ask request s).1 ::
        (next (h.ask request s).1).trace h (h.ask request s).2
  | await request next, s =>
      .awaited request (h.await request s).1 ::
        (next (h.await request s).1).trace h (h.await request s).2
  | run next, s => .ran (h.run s).1 :: (next (h.run s).1).trace h (h.run s).2

/-- How a run ends. -/
def result (h : Handler σ) (p : Program) (s : σ) : Except Fault Value := (p.exec h s).1

section

variable (h : Handler σ) (s : σ) (request : Request)

theorem exec_ask (next : Except Fault Reply → Program) :
    (ask request next).exec h s =
      (next (h.ask request s).1).exec h (h.ask request s).2 := rfl

theorem exec_await (next : Except Fault Value → Program) :
    (await request next).exec h s =
      (next (h.await request s).1).exec h (h.await request s).2 := rfl

theorem exec_run (next : Except Fault Value → Program) :
    (run next).exec h s = (next (h.run s).1).exec h (h.run s).2 := rfl

end

end Program

namespace Effect

@[simp] def isLogged : Effect → Bool
  | logged _ => true
  | _ => false

/-- The result of a run of the operation. -/
@[simp] def ranWith? : Effect → Option (Except Fault Value)
  | ran result => some result
  | _ => none

/-- The request that a backend is asked.  Waiting for its answer is no further request. -/
@[simp] def request? : Effect → Option Request
  | asked request _ => some request
  | _ => none

end Effect

namespace Handler

/-- The handler has these effects on its way from a state to another one. -/
def Replays (h : Handler σ) : List Effect → σ → σ → Prop
  | [], s, after => after = s
  | .logged row :: rest, s, after => h.Replays rest (h.log row s) after
  | .asked request reply :: rest, s, after =>
      (h.ask request s).1 = reply ∧ h.Replays rest (h.ask request s).2 after
  | .awaited request answer :: rest, s, after =>
      (h.await request s).1 = answer ∧ h.Replays rest (h.await request s).2 after
  | .ran result :: rest, s, after => (h.run s).1 = result ∧ h.Replays rest (h.run s).2 after

end Handler

theorem Program.replays_trace (h : Handler σ) (p : Program) (s : σ) :
    h.Replays (p.trace h s) s (p.exec h s).2 := by
  induction p generalizing s with
  | done result => rfl
  | log row rest ih => exact ih _
  | ask request next ih => exact ⟨rfl, ih _ _⟩
  | await request next ih => exact ⟨rfl, ih _ _⟩
  | run next ih => exact ⟨rfl, ih _ _⟩

/-! ## Backends that answer at once -/

namespace Handler

/-- No method of the backend leaves its answer pending. -/
def AnswersAtOnce (h : Handler σ) : Prop :=
  ∀ request s, (h.ask request s).1 ≠ .ok .pending

/-- No method of the backend fails with an interrupt. -/
def FailsCatchably (h : Handler σ) : Prop :=
  ∀ request s fault, (h.ask request s).1 = .error fault → fault.isInterrupt = false

theorem AnswersAtOnce.reply {h : Handler σ} (atOnce : h.AnswersAtOnce) (request : Request)
    (s : σ) : ∃ answer : Except Fault Value, (h.ask request s).1 = answer.map .value := by
  cases asked : (h.ask request s).1 with
  | error fault => exact ⟨.error fault, rfl⟩
  | ok reply =>
      cases reply with
      | value v => exact ⟨.ok v, rfl⟩
      | pending => exact absurd asked (atOnce request s)

/-- Surroundings without a state: each request has its answer, and the operation its result. -/
def fixed (answer : Request → Except Fault Value) (outcome : Except Fault Value) :
    Handler Unit where
  log _ s := s
  ask request s := ((answer request).map .value, s)
  await request s := (answer request, s)
  run s := (outcome, s)

theorem fixed_answersAtOnce (answer : Request → Except Fault Value)
    (outcome : Except Fault Value) : (fixed answer outcome).AnswersAtOnce := by
  intro request s
  simp only [fixed]
  cases answer request <;> simp [Except.map]

theorem fixed_failsCatchably {answer : Request → Except Fault Value}
    (catchable : ∀ request fault, answer request = .error fault → fault.isInterrupt = false)
    (outcome : Except Fault Value) : (fixed answer outcome).FailsCatchably := by
  intro request s fault failed
  refine catchable request fault ?_
  simp only [fixed] at failed
  cases answered : answer request <;> simp_all [Except.map]

end Handler

/-- An operation that finds users, and keeps those that it found for five minutes. -/
def findUser : Operation where
  name := "app.find_user/1"
  argumentNames := ["user"]
  mode := .cache
  key := ⟨"user:\x7buser\x7d", [.literal "user:", .placeholder "user"]⟩
  guard := .oneOf [.shape [.exact (.text "ok"), .any]]
  options := [("ttl", .int 300)]

end CachePolicy
