import CachePolicy.Proofs.Interception.Rows
import CachePolicy.Proofs.Interception.Steps
import CachePolicy.Value.Equality

/-!
# Lookups that are equal

A lookup whose status is only spelled as a proper one equals the proper one, but the policy
takes it for a miss.  Two equal lookups are told apart by this alone: one of them is a
proper hit of something, or properly unavailable, and the other is only spelled so.
-/

namespace CachePolicy

/-! ## Equal lookups -/

namespace StatusMark

def isText : StatusMark → Bool
  | known _ => false
  | spelled _ => true

theorem equal_iff {s t : StatusMark} : s.value.equal t.value = .ok true ↔ s.name = t.name := by
  cases s <;> cases t <;>
    simp [value, name, Value.equal, Value.compare, Mixin.content?, Scalar.compare,
      Value.unwrapped, Scalar.equal?, Scalar.numeral?]

theorem eq_known_iff {s : StatusMark} {status : LookupStatus} :
    s = .known status ↔ s.name = status.name ∧ s.isText = false := by
  cases s with
  | spelled x => simp [isText]
  | known x => cases x <;> cases status <;> simp [name, LookupStatus.name, isText]

end StatusMark

namespace Lookup

/-- One status is proper and the other is only spelled, and the proper one decides the call. -/
def ToldApart (a b : Lookup) : Prop :=
  a.status.isText ≠ b.status.isText ∧
    (a.status.name = "unavailable" ∨ a.status.name = "hit" ∧ a.value ≠ .null)

structure Alike (a b : Lookup) : Prop where
  found : a.found = b.found
  isUnavailable : a.isUnavailable = b.isUnavailable
  value : a.found = true → a.value = b.value

variable {a b l : Lookup}

theorem found_iff : l.found = true ↔ l.status = .known .hit ∧ l.value ≠ .null := by
  simp [found, isFound, isNull_eq_false_iff]

theorem isUnavailable_iff : l.isUnavailable = true ↔ l.status = .known .unavailable := by
  simp [isUnavailable]

theorem alike_of_not_toldApart (sameValue : a.value = b.value)
    (sameStatus : a.status.value.equal b.status.value = .ok true) (together : ¬ a.ToldApart b) :
    a.Alike b := by
  have sameName := StatusMark.equal_iff.mp sameStatus
  have sameForm : a.status.name = "unavailable" ∨ a.status.name = "hit" ∧ a.value ≠ .null →
      a.status.isText = b.status.isText := by
    intro decides
    exact Decidable.of_not_not fun other => together ⟨other, decides⟩
  constructor
  case value => exact fun _ => sameValue
  case found =>
    rw [Bool.eq_iff_iff, found_iff, found_iff, StatusMark.eq_known_iff, StatusMark.eq_known_iff,
      ← sameName, ← sameValue]
    constructor <;> rintro ⟨⟨isHit, proper⟩, something⟩
    · exact ⟨⟨isHit, sameForm (.inr ⟨isHit, something⟩) ▸ proper⟩, something⟩
    · exact ⟨⟨isHit, (sameForm (.inr ⟨isHit, something⟩)).symm ▸ proper⟩, something⟩
  case isUnavailable =>
    rw [Bool.eq_iff_iff, isUnavailable_iff, isUnavailable_iff, StatusMark.eq_known_iff,
      StatusMark.eq_known_iff, ← sameName]
    constructor <;> rintro ⟨down, proper⟩
    · exact ⟨down, sameForm (.inl down) ▸ proper⟩
    · exact ⟨down, (sameForm (.inl down)).symm ▸ proper⟩

theorem alike_miss_of_text (text : l.status.isText = true) :
    l.Alike ⟨.known .miss, l.value⟩ where
  found := by
    rw [Bool.eq_iff_iff, found_iff, found_iff, StatusMark.eq_known_iff]
    simp [text]
  isUnavailable := by
    rw [Bool.eq_iff_iff, isUnavailable_iff, isUnavailable_iff, StatusMark.eq_known_iff]
    simp [text]
  value _ := rfl

/-- The outcome that a call logs once it has read the lookup. -/
def outcome (l : Lookup) : Outcome :=
  if l.found then .hit else if l.isUnavailable then .unavailable else .miss

theorem outcome_eq_miss_iff : l.outcome = .miss ↔ l.found = false ∧ l.isUnavailable = false := by
  unfold outcome
  split
  · simp_all
  · split <;> simp_all

theorem outcome_of_text (text : l.status.isText = true) : l.outcome = .miss := by
  have alike := alike_miss_of_text text
  exact outcome_eq_miss_iff.mpr ⟨alike.found, alike.isUnavailable⟩

theorem outcome_of_proper (proper : l.status.isText = false)
    (decides : l.status.name = "unavailable" ∨ l.status.name = "hit" ∧ l.value ≠ .null) :
    l.outcome ≠ .miss := by
  intro missed
  obtain ⟨notFound, available⟩ := outcome_eq_miss_iff.mp missed
  rcases decides with down | ⟨isHit, something⟩
  · have unavailable := isUnavailable_iff.mpr (StatusMark.eq_known_iff.mpr ⟨down, proper⟩)
    simp [available] at unavailable
  · have found := found_iff.mpr ⟨StatusMark.eq_known_iff.mpr ⟨isHit, proper⟩, something⟩
    simp [notFound] at found

theorem ToldApart.outcome_ne (apart : a.ToldApart b) (sameValue : a.value = b.value)
    (sameName : a.status.name = b.status.name) : a.outcome ≠ b.outcome := by
  obtain ⟨other, decides⟩ := apart
  cases text : a.status.isText with
  | true =>
      have proper : b.status.isText = false := by simpa [text] using other.symm
      rw [outcome_of_text text]
      exact (outcome_of_proper proper (sameName ▸ sameValue ▸ decides)).symm
  | false =>
      have textual : b.status.isText = true := by simpa [text] using other.symm
      rw [outcome_of_text textual]
      exact outcome_of_proper text decides

end Lookup

/-! ## Reads that return a lookup -/

namespace Lookup

/-- What stands in the place of an answer: every read is answered with the lookup. -/
def answerTo (l : Lookup) : Request → Value → Value
  | .get _ _, _ => l.toValue
  | _, v => v

def replyTo (l : Lookup) (request : Request) : Reply → Reply
  | .value v => .value (l.answerTo request v)
  | .pending => .pending

end Lookup

variable {σ : Type}

/-- The same surroundings, but a read that returns at all returns the lookup. -/
def Handler.reading (h : Handler σ) (l : Lookup) : Handler σ where
  log := h.log
  ask request s := ((h.ask request s).1.map (l.replyTo request), (h.ask request s).2)
  await request s := ((h.await request s).1.map (l.answerTo request), (h.await request s).2)
  run := h.run

/-- The request returns an answer, and leaves the surroundings in another state. -/
inductive Handler.Returns (h : Handler σ) (style : CallStyle) (request : Request) (s after : σ) :
    Prop
  | atOnce {v : Value} (asked : h.ask request s = (.ok (.value v), after)) :
      Returns h style request s after
  | awaited {v : Value} {middle : σ} (waits : style = .awaiting)
      (asked : h.ask request s = (.ok .pending, middle))
      (answered : h.await request middle = (.ok v, after)) : Returns h style request s after

namespace Program

/-- The next step goes on in the same way whichever of two lookups it has read. -/
def GoesOnAlike (a b : Lookup) : Program → Prop
  | ask request next => ∀ v, next (.ok (.value (a.answerTo request v))) =
      next (.ok (.value (b.answerTo request v)))
  | await request next => ∀ v, next (.ok (a.answerTo request v)) =
      next (.ok (b.answerTo request v))
  | _ => True

section

variable {h : Handler σ} {s : σ} {request : Request}

theorem acts_ask (next : Except Fault Reply → Program) :
    (ask request next).acts h s =
      .called request :: (next (h.ask request s).1).acts h (h.ask request s).2 := rfl

theorem acts_await (next : Except Fault Value → Program) :
    (await request next).acts h s =
      (next (h.await request s).1).acts h (h.await request s).2 := rfl

end

/-- The program ends in the same state with the same result, after the same requests, runs and
rows, whichever of two lookups it reads. -/
def RunsAlike (h : Handler σ) (p : Program) (s : σ) (a b : Lookup) : Prop :=
  p.exec (h.reading a) s = p.exec (h.reading b) s ∧
    p.acts (h.reading a) s = p.acts (h.reading b) s

variable {h : Handler σ} {a b : Lookup} {p : Program}

theorem Always.runsAlike (alike : p.Always (GoesOnAlike a b)) (s : σ) :
    p.RunsAlike h s a b := by
  unfold RunsAlike
  induction alike generalizing s with
  | done _ => exact ⟨rfl, rfl⟩
  | @log row rest _ _ ih =>
      have further := ih (h.log row s)
      exact ⟨further.1, congrArg (Act.logged row :: ·) further.2⟩
  | run _ _ ih =>
      have further := ih (h.run s).1 (h.run s).2
      exact ⟨further.1, congrArg (Act.ran (h.run s).1 :: ·) further.2⟩
  | @ask request next same _ ih =>
      have sameNext : next ((h.reading a).ask request s).1 =
          next ((h.reading b).ask request s).1 := by
        simp only [Handler.reading]
        rcases (h.ask request s).1 with fault | (v | _)
        · rfl
        · exact same v
        · rfl
      rw [exec_ask, exec_ask, acts_ask, acts_ask, sameNext]
      exact ⟨(ih _ _).1, congrArg (.called request :: ·) (ih _ _).2⟩
  | @await request next same _ ih =>
      have sameNext : next ((h.reading a).await request s).1 =
          next ((h.reading b).await request s).1 := by
        simp only [Handler.reading]
        rcases (h.await request s).1 with fault | v
        · rfl
        · exact same v
      rw [exec_await, exec_await, acts_await, acts_await, sameNext]
      exact ih _ _

end Program

/-! ## Calls that read one of two lookups -/

namespace Operation

open Effect

variable (op : Operation) {a b : Lookup}

theorem afterLookup_eq_of_alike (alike : a.Alike b) (key : String) (store : Value → Program) :
    op.afterLookup key store a = op.afterLookup key store b := by
  unfold afterLookup
  rw [← alike.found, ← alike.isUnavailable]
  split
  · rename_i found
    rw [alike.value found]
  · rfl

theorem answerTo_of_write {request : Request} (isWrite : request.method ≠ "get") (l : Lookup)
    (v : Value) : l.answerTo request v = v := by
  cases request with
  | get config key => exact absurd rfl isWrite
  | put config key value options => rfl
  | delete config key => rfl

theorem permits_goesOnAlike (alike : a.Alike b) : op.Permits (Program.GoesOnAlike a b) where
  done _ := trivial
  run _ := trivial
  log _ _ := trivial
  write request next isWrite v := by
    rw [answerTo_of_write isWrite, answerTo_of_write isWrite]
  writeAwaiting request next isWrite v := by
    rw [answerTo_of_write isWrite, answerTo_of_write isWrite]
  read config key store next goesOn v := by
    rw [Lookup.answerTo, Lookup.answerTo, goesOn, goesOn]
    exact op.afterLookup_eq_of_alike alike key store
  readAwaiting config key store next goesOn v := by
    rw [Lookup.answerTo, Lookup.answerTo, goesOn, goesOn]
    exact op.afterLookup_eq_of_alike alike key store

theorem interception_runsAlike {h : Handler σ} (alike : a.Alike b) (style : CallStyle)
    (bindings : Bindings) (config : Value) (s : σ) :
    (op.interception style bindings config).RunsAlike h s a b :=
  (interception_always (op.permits_goesOnAlike alike) style bindings config).runsAlike s

/-! ## Calls whose read returns -/

theorem afterLookup_acts {h : Handler σ} (key : String) (store : Value → Program) (l : Lookup)
    (s : σ) : ∃ row rest, (op.afterLookup key store l).acts h s = .logged row :: rest ∧
      row.outcome? = some l.outcome := by
  unfold afterLookup Lookup.outcome
  split
  · exact ⟨_, _, rfl, rfl⟩
  split
  · exact ⟨_, _, rfl, rfl⟩
  · exact ⟨_, _, rfl, rfl⟩

theorem reading_returned {h : Handler σ} {style : CallStyle} {bindings : Bindings}
    {config : Value} {key : String} {s after : σ} (caches : op.mode = .cache)
    (rendered : op.key.render bindings = .ok key)
    (returns : h.Returns style (.get config key) s after) :
    ∃ store : Value → Program, ∀ l : Lookup,
      let call := op.interception style bindings config
      call.result (h.reading l) s = (op.afterLookup key store l).result (h.reading l) after ∧
      call.acts (h.reading l) s = .called (.get config key) ::
        (op.afterLookup key store l).acts (h.reading l) after := by
  cases style with
  | direct =>
      refine ⟨fun value => op.write .put (.put config key value op.options) key value,
        fun l => ?_⟩
      cases returns with
      | awaited waits _ _ => cases waits
      | @atOnce v asked =>
          have read : (h.reading l).ask (.get config key) s =
              (.ok (.value l.toValue), after) := by
            simp [Handler.reading, asked, Except.map, Lookup.replyTo, Lookup.answerTo]
          simp only [interception, intercept, caches, readThrough, rendered,
            Program.unlessFault, Program.result, Program.exec_ask, Program.acts_ask, read]
          exact ⟨rfl, rfl⟩
  | awaiting =>
      refine ⟨fun value => op.writeAwaiting .put (.put config key value op.options) key value,
        fun l => ?_⟩
      cases returns with
      | @atOnce v asked =>
          have read : (h.reading l).ask (.get config key) s =
              (.ok (.value l.toValue), after) := by
            simp [Handler.reading, asked, Except.map, Lookup.replyTo, Lookup.answerTo]
          simp only [interception, interceptAwaiting, caches, readThroughAwaiting, rendered,
            Program.unlessFault, Program.answered, Program.result, Program.exec_ask,
            Program.acts_ask, read]
          exact ⟨rfl, rfl⟩
      | @awaited v middle waits asked answered =>
          have pending : (h.reading l).ask (.get config key) s = (.ok .pending, middle) := by
            simp [Handler.reading, asked, Except.map, Lookup.replyTo]
          have read : (h.reading l).await (.get config key) middle =
              (.ok l.toValue, after) := by
            simp [Handler.reading, answered, Except.map, Lookup.answerTo]
          simp only [interception, interceptAwaiting, caches, readThroughAwaiting, rendered,
            Program.unlessFault, Program.answered, Program.result, Program.exec_ask,
            Program.acts_ask, Program.exec_await, Program.acts_await, pending, read]
          exact ⟨rfl, rfl⟩

/-- Equal lookups are told apart only if one of them is a proper hit of something, or properly
unavailable, and the other a text; a text is taken for a miss. -/
theorem equal_lookups_alike_iff {σ : Type} (h : Handler σ) (op : Operation) (style : CallStyle)
    (bindings : Bindings) (config : Value) (s : σ) {a b : Lookup} (sameValue : a.value = b.value)
    (sameStatus : a.status.value.equal b.status.value = .ok true) :
    let call := op.interception style bindings config
    (¬ a.ToldApart b → call.RunsAlike h s a b) ∧
    (a.status.isText = true → call.RunsAlike h s a ⟨.known .miss, a.value⟩) ∧
    ∀ key after, op.mode = .cache → op.key.render bindings = .ok key →
      h.Returns style (.get config key) s after →
        (call.RunsAlike h s a b ↔ ¬ a.ToldApart b) ∧
        (a.status = .known .unavailable → ∃ outcome, call.acts (h.reading a) s =
          [.called (.get config key), .logged (op.unavailableRow key), .ran outcome]) ∧
        (a.status = .known .hit → a.value ≠ .null →
          call.result (h.reading a) s = .ok a.value ∧
          call.acts (h.reading a) s = [.called (.get config key), .logged (op.hitRow key)]) := by
  intro call
  have together : ¬ a.ToldApart b → call.RunsAlike h s a b := fun together =>
    op.interception_runsAlike (Lookup.alike_of_not_toldApart sameValue sameStatus together) style
      bindings config s
  have missed : a.status.isText = true → call.RunsAlike h s a ⟨.known .miss, a.value⟩ :=
    fun text => op.interception_runsAlike (Lookup.alike_miss_of_text text) style bindings config s
  refine ⟨together, missed, fun key after caches rendered returns => ?_⟩
  obtain ⟨store, read⟩ := op.reading_returned caches rendered returns
  refine ⟨⟨fun alike apart => ?_, together⟩, fun down => ?_, fun isHit something => ?_⟩
  · obtain ⟨row, rest, first, told⟩ :=
      op.afterLookup_acts (h := h.reading a) key store a after
    obtain ⟨row', rest', first', told'⟩ :=
      op.afterLookup_acts (h := h.reading b) key store b after
    have sameActs := alike.2
    rw [(read a).2, (read b).2, first, first'] at sameActs
    obtain rfl : row = row' := by simpa using (List.cons.inj (List.cons.inj sameActs).2).1
    have sameOutcome : a.outcome = b.outcome := Option.some.inj (told.symm.trans told')
    exact apart.outcome_ne sameValue (StatusMark.equal_iff.mp sameStatus) sameOutcome
  · have unavailable : a.isUnavailable = true := Lookup.isUnavailable_iff.mpr down
    have notFound : ¬ a.found = true := by simp [Lookup.found_iff, down]
    rw [(read a).2, afterLookup, if_neg notFound, if_pos unavailable]
    exact ⟨_, rfl⟩
  · have found : a.found = true := Lookup.found_iff.mpr ⟨isHit, something⟩
    rw [(read a).1, (read a).2, afterLookup, if_pos found]
    exact ⟨rfl, rfl⟩

/-- A miss that carries a value, once with a proper status and once with a text. -/
theorem equal_lookups_alike_iff_miss :
    let h := Handler.fixed (fun _ => .ok .null) (.ok (.tuple [.text "ok", .int 7]))
    let a : Lookup := ⟨.known .miss, .int 3⟩
    let b : Lookup := ⟨.spelled "miss", .int 3⟩
    let call := findUser.interception .awaiting [("user", .text "7")] .null
    a.value = b.value ∧ a.status.value.equal b.status.value = .ok true ∧ ¬ a.ToldApart b ∧
      call.RunsAlike h () a b ∧
      call.result (h.reading b) () = .ok (.tuple [.text "ok", .int 7]) := by
  intro h a b call
  have sameStatus : a.status.value.equal b.status.value = .ok true := StatusMark.equal_iff.mpr rfl
  have together : ¬ a.ToldApart b := by
    simp [Lookup.ToldApart, a, StatusMark.name, LookupStatus.name]
  have told := equal_lookups_alike_iff h findUser .awaiting [("user", .text "7")] .null ()
    (a := a) (b := b) rfl sameStatus
  exact ⟨rfl, sameStatus, together, told.1 together, rfl⟩

/-- A hit that is only spelled so runs the operation again, and a result is stored although the
backend said that it was unavailable. -/
theorem spelled_lookups_taken_for_misses :
    let h := Handler.fixed (fun _ => .ok .null) (.ok (.tuple [.text "ok", .int 7]))
    let call := findUser.interception .direct [("user", .text "7")] .null
    let hit : Lookup := ⟨.known .hit, .int 3⟩
    let spelledHit : Lookup := ⟨.spelled "hit", .int 3⟩
    let spelledUnavailable : Lookup := ⟨.spelled "unavailable", .null⟩
    hit.toValue.equal spelledHit.toValue = .ok true ∧
      Lookup.unavailable.toValue.equal spelledUnavailable.toValue = .ok true ∧
      call.result (h.reading hit) () = .ok (.int 3) ∧
      call.result (h.reading spelledHit) () = .ok (.tuple [.text "ok", .int 7]) ∧
      runs (call.trace (h.reading spelledHit) ()) ≠ [] ∧
      ∃ request ∈ requests (call.trace (h.reading spelledUnavailable) ()),
        request.method = "put" := by
  intro h call hit spelledHit spelledUnavailable
  exact ⟨rfl, rfl, rfl, rfl, nofun, _, .tail _ (.head _), rfl⟩

end Operation

end CachePolicy
