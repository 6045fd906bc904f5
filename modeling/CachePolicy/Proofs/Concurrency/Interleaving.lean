import CachePolicy.Proofs.Concurrency.Past
import CachePolicy.Proofs.Memory.Site
import Mathlib.Logic.Function.Basic

/-!
# Interleaved calls

Awaiting calls that share a store and take turns.  A turn carries one call on by one
effect.  Whose turn it is, whether the store answers at once or only when it is awaited,
and what an operation comes to are all up to the turn, so a list of turns is a schedule.
The store takes requests one at a time, like an atomic map.
-/

namespace CachePolicy

variable {ι σ : Type}

/-! ## One effect -/

namespace Program

/-- The next effect of a program, what is left of the program, and the state behind the effect. -/
def step (h : Handler σ) : Program → σ → Option (Effect × Program × σ)
  | done _, _ => none
  | log row rest, s => some (.logged row, rest, h.log row s)
  | ask request next, s =>
      let (reply, s) := h.ask request s
      some (.asked request reply, next reply, s)
  | await request next, s =>
      let (answer, s) := h.await request s
      some (.awaited request answer, next answer, s)
  | run next, s =>
      let (result, s) := h.run s
      some (.ran result, next result, s)

variable {p rest : Program} {h : Handler σ} {s after : σ} {effect : Effect}

theorem exec_of_step (stepped : p.step h s = some (effect, rest, after)) :
    p.exec h s = rest.exec h after ∧ p.trace h s = effect :: rest.trace h after := by
  cases p <;> cases stepped <;> exact ⟨rfl, rfl⟩

theorem Obeys.step {rule : Rule} {past : List Effect} (obeys : p.Obeys rule past)
    (stepped : p.step h s = some (effect, rest, after)) :
    (∀ request answer, effect.performed? = some (request, answer) → rule.asks past request) ∧
      rest.Obeys rule (past ++ [effect]) := by
  cases p with
  | done result => cases stepped
  | log row rest =>
      cases stepped
      exact ⟨nofun, obeys⟩
  | ask request next =>
      cases stepped
      refine ⟨fun request' answer performed => ?_, obeys.2 _⟩
      obtain ⟨rfl, -⟩ := Effect.performed?_asked.mp performed
      exact obeys.1
  | await request next =>
      cases stepped
      refine ⟨fun request' answer performed => ?_, obeys.2 _⟩
      obtain ⟨rfl, -⟩ := Effect.performed?_awaited.mp performed
      exact obeys.1
  | run next =>
      cases stepped
      exact ⟨nofun, obeys _⟩

end Program

/-! ## Atomic maps -/

/-- What a request makes of the values that are held under the keys. -/
def Request.leaves (held : String → Option Value) : Request → String → Option Value
  | get _ _ => held
  | put _ key value _ => Function.update held key (some value)
  | delete _ key => Function.update held key none

/-- A store that takes each request as a whole.  A read is a hit with the value that is held
under its key, unless that is null. -/
structure AtomicMap (σ : Type) where
  answer : Request → σ → Value × σ
  held : σ → String → Option Value
  hit_get_iff : ∀ {config key s value},
    Hit (answer (.get config key) s).1 value ↔ held s key = some value ∧ value ≠ .null
  held_answer : ∀ request s, held (answer request s).2 = request.leaves (held s)

/-- A memory backend is an atomic map, whatever the world around it. -/
def Site.atomicMap (ω : Type) : AtomicMap (Site ω) where
  answer := Site.answer
  held s := s.store.held
  hit_get_iff := MemoryBackend.hit_get_iff
  held_answer request s := by
    cases request with
    | get config key => rfl
    | put config key value options => exact s.store.held_put key value
    | delete config key => exact s.store.held_delete key

/-! ## Histories -/

namespace Effect

def leaves (held : String → Option Value) (effect : Effect) : String → Option Value :=
  match effect.performed? with
  | some (request, _) => request.leaves held
  | none => held

/-- The effect puts a value under the key, or deletes the key. -/
def Writes (effect : Effect) (key : String) : Prop :=
  ∃ answer config, effect.performed? = some (.delete config key, answer) ∨
    ∃ value options, effect.performed? = some (.put config key value options, answer)

variable {effect : Effect} {held : String → Option Value} {key : String} {value : Value}

theorem leaves_of_not_writes (kept : ¬ effect.Writes key) : effect.leaves held key = held key := by
  cases performed : effect.performed? with
  | none => simp [leaves, performed]
  | some carried =>
      obtain ⟨request, answer⟩ := carried
      simp only [leaves, performed]
      cases request with
      | get config other => rfl
      | put config other value options =>
          have apart : key ≠ other := by
            rintro rfl
            exact kept ⟨answer, config, .inr ⟨value, options, performed⟩⟩
          exact Function.update_of_ne apart _ _
      | delete config other =>
          have apart : key ≠ other := by
            rintro rfl
            exact kept ⟨answer, config, .inl performed⟩
          exact Function.update_of_ne apart _ _

theorem put_of_writes (writes : effect.Writes key) (taken : effect.leaves held key = some value) :
    ∃ config options answer, effect.performed? = some (.put config key value options, answer) := by
  obtain ⟨answer, config, deleted | ⟨stored, options, put⟩⟩ := writes
  · simp [leaves, deleted, Request.leaves] at taken
  · obtain rfl : stored = value := by simpa [leaves, put, Request.leaves] using taken
    exact ⟨config, options, answer, put⟩

end Effect

/-- The effects of all calls, each with the call that had it, in the order of the turns. -/
abbrev History (ι : Type) := List (ι × Effect)

namespace History

section

variable [DecidableEq ι] {caller other : ι} {history : History ι} {effect : Effect}

/-- The effects of one call. -/
def own (caller : ι) (history : History ι) : List Effect :=
  (history.filter fun event => event.1 = caller).map Prod.snd

theorem mem_own_iff : effect ∈ own caller history ↔ (caller, effect) ∈ history := by
  simp [own]

theorem own_snoc_self : own caller (history ++ [(caller, effect)]) =
    own caller history ++ [effect] := by
  simp [own]

theorem own_snoc_of_ne (apart : other ≠ caller) :
    own caller (history ++ [(other, effect)]) = own caller history := by
  simp [own, apart]

end

/-- Every event has what it should have behind it. -/
def Each (P : History ι → ι × Effect → Prop) (history : History ι) : Prop :=
  ∀ earlier event later, history = earlier ++ event :: later → P earlier event

theorem Each.snoc {P : History ι → ι × Effect → Prop} {history : History ι} {last : ι × Effect}
    (each : history.Each P) (holds : P history last) : Each P (history ++ [last]) := by
  intro earlier event later split
  rcases List.eq_nil_or_concat later with rfl | ⟨later, other, rfl⟩
  · obtain ⟨rfl, rfl⟩ : history = earlier ∧ last = event := by
      simpa using List.append_inj' split rfl
    exact holds
  · have sameLast : history ++ [last] = (earlier ++ event :: later) ++ [other] := by
      simpa using split
    exact each earlier event later (List.append_inj_left' sameLast rfl)

/-- What is held under the keys behind a history, given what was held before it. -/
def leaves (held : String → Option Value) (history : History ι) : String → Option Value :=
  history.foldl (fun held event => event.2.leaves held) held

/-- The last write of a key in a history is a put of the value, by a writer who has the earlier
part of the history behind it. -/
def LastPut (key : String) (value : Value) (writer : ι) (earlier history : History ι) : Prop :=
  ∃ put between config options answer,
    history = earlier ++ (writer, put) :: between ∧
      put.performed? = some (.put config key value options, answer) ∧
        ∀ event ∈ between, ¬ event.2.Writes key

variable {held : String → Option Value} {key : String} {value : Value}

theorem leaves_append (first second : History ι) :
    leaves held (first ++ second) = leaves (leaves held first) second := List.foldl_append

theorem LastPut.cons {writer : ι} {earlier history : History ι}
    (lastPut : LastPut key value writer earlier history) (event : ι × Effect) :
    LastPut key value writer (event :: earlier) (event :: history) := by
  obtain ⟨put, between, config, options, answer, rfl, performed, kept⟩ := lastPut
  exact ⟨put, between, config, options, answer, rfl, performed, kept⟩

/-- What is held behind a history was held before it and not written, or has last been put. -/
theorem kept_or_lastPut {history : History ι} (taken : history.leaves held key = some value) :
    (held key = some value ∧ ∀ event ∈ history, ¬ event.2.Writes key) ∨
      ∃ writer earlier, LastPut key value writer earlier history := by
  induction history generalizing held with
  | nil => exact .inl ⟨taken, List.forall_mem_nil _⟩
  | cons event rest ih =>
      obtain ⟨writer, effect⟩ := event
      rcases ih taken with ⟨(taken : effect.leaves held key = some value), kept⟩ |
        ⟨putter, earlier, lastPut⟩
      · by_cases writes : effect.Writes key
        · obtain ⟨config, options, answer, performed⟩ := Effect.put_of_writes writes taken
          exact .inr ⟨writer, [], effect, rest, config, options, answer, rfl, performed, kept⟩
        · rw [Effect.leaves_of_not_writes writes] at taken
          exact .inl ⟨taken, List.forall_mem_cons.mpr ⟨writes, kept⟩⟩
      · exact .inr ⟨putter, (writer, effect) :: earlier, lastPut.cons _⟩

end History

/-! ## Schedules -/

structure Task where
  operation : Operation
  bindings : Bindings
  config : Value

namespace Task

def program (t : Task) : Program := t.operation.interceptAwaiting t.bindings t.config

def rule (t : Task) : Rule := t.operation.rule t.bindings

/-- The task is a cached call under the key. -/
def Caches (t : Task) (key : String) : Prop :=
  t.operation.mode = .cache ∧ t.operation.key.render t.bindings = .ok key

theorem program_obeys (t : Task) : t.program.Obeys t.rule [] :=
  Operation.obeys_interceptAwaiting

end Task

/-- Whose turn it is, whether the store leaves an answer pending, and what the operation comes
to if it is run in this turn. -/
structure Turn (ι : Type) where
  caller : ι
  defers : Bool
  outcome : Except Fault Value

/-- A request whose answer is pending is carried out when it is awaited. -/
def Turn.handler (m : AtomicMap σ) (t : Turn ι) : Handler σ where
  log _ s := s
  ask request s :=
    if t.defers then (.ok .pending, s)
    else (.ok (.value (m.answer request s).1), (m.answer request s).2)
  await request s := (.ok (m.answer request s).1, (m.answer request s).2)
  run s := (t.outcome, s)

/-- What is left of every call, and the effects so far. -/
structure Interleaving (ι σ : Type) where
  store : σ
  left : ι → Program
  history : History ι

namespace Interleaving

def start (tasks : ι → Task) (s : σ) : Interleaving ι σ :=
  ⟨s, fun caller => (tasks caller).program, []⟩

variable [DecidableEq ι]

/-- A call that is done has no more effects. -/
def turn (m : AtomicMap σ) (x : Interleaving ι σ) (t : Turn ι) : Interleaving ι σ :=
  match (x.left t.caller).step (t.handler m) x.store with
  | some (effect, rest, store) =>
      ⟨store, Function.update x.left t.caller rest, x.history ++ [(t.caller, effect)]⟩
  | none => x

def play (m : AtomicMap σ) (x : Interleaving ι σ) (turns : List (Turn ι)) :
    Interleaving ι σ :=
  turns.foldl (turn m) x

variable {m : AtomicMap σ} {x : Interleaving ι σ} {t : Turn ι}

theorem turn_of_step {effect : Effect} {rest : Program} {store : σ}
    (stepped : (x.left t.caller).step (t.handler m) x.store = some (effect, rest, store)) :
    x.turn m t =
      ⟨store, Function.update x.left t.caller rest, x.history ++ [(t.caller, effect)]⟩ := by
  simp only [turn, stepped]

theorem turn_of_done (stuck : (x.left t.caller).step (t.handler m) x.store = none) :
    x.turn m t = x := by
  simp only [turn, stuck]

/-- A call that has every turn from now on ends as it does by itself. -/
def RunsAlone (m : AtomicMap σ) (t : Turn ι) (x : Interleaving ι σ) : Prop :=
  let h := t.handler m
  let p := x.left t.caller
  ∃ turns, x.play m (List.replicate turns t) =
    ⟨(p.exec h x.store).2, Function.update x.left t.caller (.done (p.result h x.store)),
      x.history ++ (p.trace h x.store).map (t.caller, ·)⟩

theorem RunsAlone.of_step {p rest : Program} {effect : Effect} {store : σ}
    (remaining : x.left t.caller = p)
    (stepped : p.step (t.handler m) x.store = some (effect, rest, store))
    (runs : (x.turn m t).left t.caller = rest → (x.turn m t).RunsAlone m t) :
    x.RunsAlone m t := by
  subst remaining
  have turned := turn_of_step stepped
  obtain ⟨turns, played⟩ := runs (by rw [turned]; exact Function.update_self _ _ _)
  obtain ⟨sameEnd, sameTrace⟩ := Program.exec_of_step stepped
  refine ⟨turns + 1, ?_⟩
  rw [List.replicate_succ, play, List.foldl_cons, ← play, played, turned]
  simp [Program.result, sameEnd, sameTrace, Function.update_idem]

theorem runsAlone (m : AtomicMap σ) (t : Turn ι) (x : Interleaving ι σ) : x.RunsAlone m t := by
  generalize remaining : x.left t.caller = p
  induction p generalizing x with
  | done result =>
      have unmoved : Function.update x.left t.caller (.done result) = x.left := by
        rw [← remaining, Function.update_eq_self]
      exact ⟨0, by simp [play, remaining, Program.exec, Program.result, Program.trace, unmoved]⟩
  | log row rest ih => exact .of_step remaining rfl (ih _)
  | ask request next ih => exact .of_step remaining rfl (ih _ _)
  | await request next ih => exact .of_step remaining rfl (ih _ _)
  | run next ih => exact .of_step remaining rfl (ih _ _)

end Interleaving

/-! ## What an event has behind it -/

section

variable {m : AtomicMap σ} {t : Turn ι} {p rest : Program} {s after : σ} {effect : Effect}

theorem Turn.performed_of_step (stepped : p.step (t.handler m) s = some (effect, rest, after)) :
    (effect.performed? = none ∧ after = s) ∨
      ∃ request, effect.performed? = some (request, (m.answer request s).1) ∧
        after = (m.answer request s).2 := by
  cases p with
  | done result => cases stepped
  | log row rest =>
      cases stepped
      exact .inl ⟨rfl, rfl⟩
  | ask request next =>
      by_cases defers : t.defers
      · simp only [Program.step, handler, defers, if_true] at stepped
        cases stepped
        exact .inl ⟨rfl, rfl⟩
      · simp only [Program.step, handler, defers] at stepped
        cases stepped
        exact .inr ⟨request, rfl, rfl⟩
  | await request next =>
      cases stepped
      exact .inr ⟨request, rfl, rfl⟩
  | run next =>
      cases stepped
      exact .inl ⟨rfl, rfl⟩

theorem Turn.held_of_step (stepped : p.step (t.handler m) s = some (effect, rest, after)) :
    m.held after = effect.leaves (m.held s) := by
  rcases performed_of_step stepped with ⟨silent, rfl⟩ | ⟨request, performed, rfl⟩
  · simp [Effect.leaves, silent]
  · simp [Effect.leaves, performed, m.held_answer]

theorem Turn.read_of_step (stepped : p.step (t.handler m) s = some (effect, rest, after))
    {config answer value : Value} {key : String}
    (read : effect.performed? = some (.get config key, answer)) (isHit : Hit answer value) :
    m.held s key = some value := by
  rcases performed_of_step stepped with ⟨silent, -⟩ | ⟨request, performed, -⟩
  · simp [silent] at read
  · rw [performed] at read
    cases read
    exact (m.hit_get_iff.mp isHit).1

end

namespace Interleaving

variable [DecidableEq ι] {rules : ι → Rule} {held : String → Option Value} {m : AtomicMap σ}
  {x : Interleaving ι σ}

/-- An event keeps to the rule of its call, and a read hits what the events before it left. -/
structure Warranted (rules : ι → Rule) (held : String → Option Value) (earlier : History ι)
    (event : ι × Effect) : Prop where
  asks : ∀ request answer, event.2.performed? = some (request, answer) →
    (rules event.1).asks (earlier.own event.1) request
  reads : ∀ config key answer value, event.2.performed? = some (.get config key, answer) →
    Hit answer value → earlier.leaves held key = some value

structure Lawful (rules : ι → Rule) (m : AtomicMap σ) (held : String → Option Value)
    (x : Interleaving ι σ) : Prop where
  holds : m.held x.store = x.history.leaves held
  obeys : ∀ caller, (x.left caller).Obeys (rules caller) (x.history.own caller)
  warranted : x.history.Each (Warranted rules held)

theorem lawful_start (tasks : ι → Task) (s : σ) :
    (start tasks s).Lawful (fun caller => (tasks caller).rule) m (m.held s) where
  holds := rfl
  obeys caller := (tasks caller).program_obeys
  warranted := by simp [start, History.Each]

theorem Lawful.turn (lawful : x.Lawful rules m held) (t : Turn ι) :
    (x.turn m t).Lawful rules m held := by
  cases stepped : (x.left t.caller).step (t.handler m) x.store with
  | none =>
      rw [turn_of_done stepped]
      exact lawful
  | some next =>
      obtain ⟨effect, rest, store⟩ := next
      have ⟨asks, obeys⟩ := (lawful.obeys t.caller).step stepped
      rw [turn_of_step stepped]
      refine ⟨?_, fun caller => ?_, lawful.warranted.snoc ⟨asks, ?_⟩⟩
      · rw [History.leaves_append, ← lawful.holds]
        exact t.held_of_step stepped
      · dsimp only
        by_cases same : caller = t.caller
        · subst same
          rw [Function.update_self, History.own_snoc_self]
          exact obeys
        · rw [Function.update_of_ne same, History.own_snoc_of_ne (Ne.symm same)]
          exact lawful.obeys caller
      · intro config key answer value read isHit
        rw [← lawful.holds]
        exact t.read_of_step stepped read isHit

theorem Lawful.play (lawful : x.Lawful rules m held) (turns : List (Turn ι)) :
    (x.play m turns).Lawful rules m held := by
  induction turns generalizing x with
  | nil => exact lawful
  | cons t turns ih => exact ih (lawful.turn t)

end Interleaving

end CachePolicy
