import CachePolicy.Proofs.Interception.Runs

/-!
# What has happened before a request

A rule says which requests a program may make, and what it may end with, after the
effects that it has had by then.  Awaiting calls keep to the rule of their operation: a
value is put only after the operation has returned it, a key is deleted only after the
operation has returned, and a call returns what the operation returned or what a read
has hit.
-/

namespace CachePolicy

namespace Effect

/-- The request that a backend has carried out, and its answer.  A request whose answer is left
pending is carried out when it is awaited. -/
def performed? : Effect → Option (Request × Value)
  | asked request (.ok (.value answer)) => some (request, answer)
  | awaited request (.ok answer) => some (request, answer)
  | _ => none

variable {request request' : Request} {value : Value}

theorem performed?_asked {reply : Except Fault Reply} :
    (asked request reply).performed? = some (request', value) ↔
      request = request' ∧ reply = .ok (.value value) := by
  unfold performed?
  split <;> simp_all

theorem performed?_awaited {answer : Except Fault Value} :
    (awaited request answer).performed? = some (request', value) ↔
      request = request' ∧ answer = .ok value := by
  unfold performed?
  split <;> simp_all

end Effect

def CarriedOut (past : List Effect) (request : Request) (answer : Value) : Prop :=
  ∃ effect ∈ past, effect.performed? = some (request, answer)

theorem CarriedOut.mono {past later : List Effect} {request : Request} {answer : Value}
    (carried : CarriedOut past request answer) (grown : past ⊆ later) :
    CarriedOut later request answer := by
  obtain ⟨effect, member, performed⟩ := carried
  exact ⟨effect, grown member, performed⟩

structure Rule where
  asks : List Effect → Request → Prop
  returns : List Effect → Value → Prop

namespace Program

/-- The program keeps to the rule, whatever it is answered, when it has had some effects before. -/
def Obeys (rule : Rule) : List Effect → Program → Prop
  | _, done (.error _) => True
  | past, done (.ok value) => rule.returns past value
  | past, log row rest => Obeys rule (past ++ [.logged row]) rest
  | past, ask request next =>
      rule.asks past request ∧ ∀ reply, Obeys rule (past ++ [.asked request reply]) (next reply)
  | past, await request next =>
      rule.asks past request ∧
        ∀ answer, Obeys rule (past ++ [.awaited request answer]) (next answer)
  | past, run next => ∀ result, Obeys rule (past ++ [.ran result]) (next result)

/-- After an answered request the program goes on with the answer, and if there is one then the
request has been carried out. -/
theorem obeys_answered {rule : Rule} {past : List Effect} {request : Request}
    {next : Except Fault Value → Program}
    (asks : ∀ later, past ⊆ later → rule.asks later request)
    (goesOn : ∀ later, past ⊆ later → ∀ answer,
      (∀ value, answer = .ok value → CarriedOut later request value) →
        (next answer).Obeys rule later) :
    (answered request next).Obeys rule past := by
  have grown : ∀ es : List Effect, past ⊆ past ++ es := List.subset_append_left past
  refine ⟨asks past (List.Subset.refl past), fun reply => ?_⟩
  match reply with
  | .error fault => exact goesOn _ (grown _) _ nofun
  | .ok (.value value) =>
      refine goesOn _ (grown _) _ ?_
      rintro _ ⟨⟩
      exact ⟨_, List.mem_append_right _ List.mem_cons_self, rfl⟩
  | .ok .pending =>
      refine ⟨asks _ (grown _), fun answer => ?_⟩
      rw [List.append_assoc]
      refine goesOn _ (grown _) _ ?_
      rintro value rfl
      exact ⟨.awaited request (.ok value), by simp, rfl⟩

end Program

namespace Operation

variable {op : Operation} {bindings : Bindings} {config value : Value} {key : String}
  {past : List Effect}

/-! ## The rule of an operation -/

/-- What a call that makes a request has behind it. -/
def Asks (op : Operation) (bindings : Bindings) (past : List Effect) : Request → Prop
  | .get _ key => op.mode = .cache ∧ op.key.render bindings = .ok key
  | .put _ key value _ =>
      op.mode = .cache ∧ op.key.render bindings = .ok key ∧ .ran (.ok value) ∈ past
  | .delete _ key =>
      op.mode = .invalidate ∧ op.key.render bindings = .ok key ∧ ∃ value, .ran (.ok value) ∈ past

/-- What a call that returns a value has behind it. -/
structure Returns (op : Operation) (bindings : Bindings) (past : List Effect) (value : Value) :
    Prop where
  comesFrom : .ran (.ok value) ∈ past ∨ ∃ config key answer,
    op.key.render bindings = .ok key ∧ Hit answer value ∧ CarriedOut past (.get config key) answer
  deletes : op.mode = .invalidate → op.guard.holds value = .ok true → ∃ config key answer,
    op.key.render bindings = .ok key ∧ CarriedOut past (.delete config key) answer

def rule (op : Operation) (bindings : Bindings) : Rule := ⟨op.Asks bindings, op.Returns bindings⟩

theorem Returns.of_ran (caches : op.mode = .cache) (ran : .ran (.ok value) ∈ past) :
    op.Returns bindings past value where
  comesFrom := .inl ran
  deletes invalidates _ := by simp [caches] at invalidates

/-! ## Steps keep to the rule -/

theorem obeys_callThrough (caches : op.mode = .cache) :
    callThrough.Obeys (op.rule bindings) past := by
  intro result
  cases result with
  | error fault => trivial
  | ok value => exact .of_ran caches (List.mem_append_right _ List.mem_cons_self)

theorem obeys_writeFailed {action : WriteAction} {fault : Option Fault} :
    (op.writeFailed action key fault).Obeys (op.rule bindings) past := trivial

theorem obeys_writeAwaiting {action : WriteAction} {request : Request}
    (asks : ∀ later, past ⊆ later → op.Asks bindings later request)
    (returns : ∀ later, past ⊆ later → ∀ answer, CarriedOut later request answer →
      op.Returns bindings later value) :
    (op.writeAwaiting action request key value).Obeys (op.rule bindings) past := by
  refine Program.obeys_answered asks fun later grown answer carried => ?_
  cases answer with
  | error fault =>
      simp only [Program.caught]
      split
      · trivial
      · exact obeys_writeFailed
  | ok answer =>
      by_cases refused : answer = .flag false
      · subst refused
        show (op.writeFailed action key none).Obeys (op.rule bindings) later
        exact obeys_writeFailed
      · have further : later ⊆ later ++ [.logged (op.writtenRow action key)] :=
          List.subset_append_left _ _
        simp only [Program.caught, op.writeAnswered_of_ne refused]
        exact returns _ (List.Subset.trans grown further) answer
          ((carried answer rfl).mono further)

theorem obeys_ifGuarded {passed : Program} {row : LogRow} (ran : .ran (.ok value) ∈ past)
    (passes : op.guard.holds value = .ok true → passed.Obeys (op.rule bindings) past) :
    (op.ifGuarded value passed row).Obeys (op.rule bindings) past := by
  unfold ifGuarded
  split
  · trivial
  · rename_i holds
    exact passes holds
  · rename_i holds
    exact ⟨.inl (List.mem_append_left _ ran), fun _ passed => by simp [holds] at passed⟩

theorem obeys_runGuarded {passed : Value → Program} {row : LogRow}
    (passes : ∀ value, op.guard.holds value = .ok true →
      (passed value).Obeys (op.rule bindings) (past ++ [.ran (.ok value)])) :
    (Program.run (.unlessFault fun value => op.ifGuarded value (passed value) row)).Obeys
      (op.rule bindings) past := by
  intro result
  cases result with
  | error fault => trivial
  | ok value =>
      exact obeys_ifGuarded (List.mem_append_right _ List.mem_cons_self) (passes value)

/-! ## Calls -/

theorem obeys_afterLookup {store : Value → Program} {answer : Value} (caches : op.mode = .cache)
    (rendered : op.key.render bindings = .ok key)
    (read : CarriedOut past (.get config key) answer)
    (stores : ∀ later value, .ran (.ok value) ∈ later →
      (store value).Obeys (op.rule bindings) later) :
    (op.afterLookup key store (.ofReply answer)).Obeys (op.rule bindings) past := by
  unfold afterLookup
  split
  · rename_i found
    have isHit := Lookup.found_ofReply_iff.mp ⟨found, rfl⟩
    have readBefore := read.mono (List.subset_append_left past [.logged (op.hitRow key)])
    exact ⟨.inr ⟨config, key, answer, rendered, isHit, readBefore⟩,
      fun invalidates => by simp [caches] at invalidates⟩
  · split
    · exact obeys_callThrough caches
    · exact obeys_runGuarded fun value _ =>
        stores _ value (List.mem_append_right _ List.mem_cons_self)

theorem obeys_readThroughAwaiting (caches : op.mode = .cache) :
    (op.readThroughAwaiting bindings config).Obeys (op.rule bindings) past := by
  unfold readThroughAwaiting
  cases rendered : op.key.render bindings with
  | error fault => trivial
  | ok key =>
      refine Program.obeys_answered (fun later _ => ⟨caches, rendered⟩)
        fun later _ answer read => ?_
      cases answer with
      | error fault =>
          simp only [Program.caught]
          split
          · trivial
          · exact obeys_callThrough caches
      | ok answer =>
          refine obeys_afterLookup caches rendered (read answer rfl) fun later value ran => ?_
          exact obeys_writeAwaiting (fun _ grown => ⟨caches, rendered, grown ran⟩)
            fun _ grown _ _ => .of_ran caches (grown ran)

theorem obeys_runThenInvalidateAwaiting (invalidates : op.mode = .invalidate) :
    (op.runThenInvalidateAwaiting bindings config).Obeys (op.rule bindings) past := by
  refine obeys_runGuarded fun value _ => ?_
  have ran : .ran (.ok value) ∈ past ++ [.ran (.ok value)] :=
    List.mem_append_right _ List.mem_cons_self
  cases rendered : op.key.render bindings with
  | error fault => trivial
  | ok key =>
      exact obeys_writeAwaiting (fun _ grown => ⟨invalidates, rendered, value, grown ran⟩)
        fun _ grown answer deleted =>
          ⟨.inl (grown ran), fun _ _ => ⟨config, key, answer, rendered, deleted⟩⟩

theorem obeys_interceptAwaiting :
    (op.interceptAwaiting bindings config).Obeys (op.rule bindings) past := by
  unfold interceptAwaiting
  cases mode : op.mode with
  | cache => exact obeys_readThroughAwaiting mode
  | invalidate => exact obeys_runThenInvalidateAwaiting mode

end Operation

end CachePolicy
