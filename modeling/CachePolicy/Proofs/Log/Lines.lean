import CachePolicy.Interception.Notice
import CachePolicy.Log.Line
import CachePolicy.Proofs.Datum.Unbroken
import CachePolicy.Proofs.Interception.Steps
import CachePolicy.Proofs.Log.Clock
import CachePolicy.Proofs.Log.Messages

/-!
# Lines of an interception

Every notice becomes one structured line, whatever stands in its key, in the name of its
operation and in the failure that it tells.  The line has no line end, and its level, its
logger, its message and its interception can be read back from it.
-/

namespace CachePolicy

theorem lt_integerTextLimit {n : Nat} (small : n < Nat.pow 2 32) : n < integerTextLimit := by
  have bound : ∀ digits, 10 ≤ digits → n < Nat.pow 10 digits := fun digits enough =>
    calc n < Nat.pow 2 32 := small
      _ ≤ Nat.pow 10 10 := by decide
      _ ≤ Nat.pow 10 digits := Nat.pow_le_pow_right (by decide) enough
  unfold integerTextLimit
  exact bound digitLimit (by decide)

theorem limitedIntegerText_of_lt {n : Nat} (small : n < Nat.pow 2 32) :
    limitedIntegerText n = .ok (integerText n) :=
  if_neg (Nat.not_le.mpr (lt_integerTextLimit small))

theorem levelName_number (level : Level) : levelName level.number = level.name := by
  cases level <;> rfl

theorem Level.name_injective : Function.Injective Level.name := by
  intro level other
  cases level <;> cases other <;> decide

theorem Outcome.name_injective : Function.Injective Outcome.name := by
  intro outcome other
  cases outcome <;> cases other <;> decide

namespace Datum

theorem same_text_iff {sorted : Bool} {s t : String} :
    Same sorted (.text s) (.text t) ↔ s = t := by
  constructor
  · rintro ⟨⟩
    rfl
  · rintro rfl
    exact .text s

theorem same_map_values {members others : List (String × Datum)}
    (same : Same false (.map members) (.map others)) :
    List.Forall₂ (Same false) (members.map Prod.snd) (others.map Prod.snd) := by
  cases same with
  | map names values => exact values

end Datum

namespace Notice

variable (op : Operation) (origin : Origin) (notice : Notice)

/-! ## The message -/

section

attribute [local simp] templateChars filledChars template arguments row Operation.row
  Operation.hitRow Operation.missRow Operation.unavailableRow Operation.readFailedRow
  Operation.notStoredRow Operation.notInvalidatedRow Operation.writtenRow
  Operation.writeFailedRow WriteAction.label

theorem filled_template :
    filledMessage notice.template (.tuple ((notice.arguments op).map .text)) =
      .ok (notice.row op).message := by
  cases notice with
  | hit key =>
      exact filledMessage_pieces _ "" ["Cache HIT: "] (by simp) (by simp) rfl (by simp)
  | miss key =>
      exact filledMessage_pieces _ "" ["Cache MISS: "] (by simp) (by simp) rfl (by simp)
  | unavailable key =>
      exact filledMessage_pieces _ ", calling through" ["Cache unavailable for "]
        (by simp) (by simp) rfl (by simp)
  | readFailed key fault =>
      exact filledMessage_pieces _ "" ["Cache GET failed for ", ", calling through: "]
        (by simp) (by simp) rfl (by simp)
  | notStored key =>
      exact filledMessage_pieces _ ": no pattern matched" ["Result not cached for "]
        (by simp) (by simp) rfl (by simp)
  | notInvalidated =>
      exact filledMessage_pieces _ ": no pattern matched" ["No invalidation for "]
        (by simp) (by simp) rfl (by simp)
  | written action key =>
      cases action with
      | put =>
          exact filledMessage_pieces _ "" ["Cache PUT: "] (by simp) (by simp) rfl (by simp)
      | delete =>
          exact filledMessage_pieces _ "" ["Cache DEL: "] (by simp) (by simp) rfl (by simp)
  | writeFailed action key detail fault =>
      exact filledMessage_pieces _ "" ["Cache ", " failed for ", ": "]
        (by simp) (by simp) rfl (by simp)

end

/-! ## The parts of the record -/

/-- The data of a line, but for the time and the failure. -/
def payload (row : LogRow) (context : LogContext) (origin : Origin) (time : String)
    (error : List (String × Datum)) : Datum :=
  .map ([("time", .text time), ("level", .text row.level.name), ("logger", .text origin.logger),
    ("pid", .int origin.process), ("message", .text row.message),
    ("cache", .map [("operation", .text context.operation), ("mode", .text context.mode),
      ("key", .text context.key), ("outcome", .text context.outcome.name)])] ++ error)

theorem exists_context : ∃ context, (notice.row op).context = some context := by
  cases notice <;> exact ⟨_, rfl⟩

theorem ownArguments_of_texts {r : LogRecord} {texts : List String}
    (given : r.arguments = texts.map .text) : r.ownArguments = .tuple (texts.map .text) := by
  rw [LogRecord.ownArguments, given]
  cases texts with
  | nil => rfl
  | cons text rest => cases rest <;> rfl

theorem exists_failureMembers (name message stack : String) :
    ∃ members, LogRecord.failureMembers (.told (some (.text name)) (some message) stack) =
        .ok members ∧ ∀ member ∈ members, ∃ words, member.2 = .text words := by
  obtain ⟨members, gathered, texts⟩ : ∃ members,
      LogRecord.failureMembers (.told none (some message) stack) = .ok members ∧
        ∀ member ∈ members, ∃ words, member.2 = .text words := by
    by_cases silent : message = ""
    · subst silent
      exact ⟨[], rfl, nofun⟩
    · refine ⟨[("message", .text message)], ?_, by simp⟩
      simp [LogRecord.failureMembers, pure, Except.pure, bind, Except.bind]
  by_cases named : name = ""
  · subst named
    exact ⟨members, gathered, texts⟩
  · have counts : (Value.text name).truth = .ok true := by
      simp [Value.truth, Scalar.truth, named]
    refine ⟨("type", .text name) :: members, ?_, List.forall_mem_cons.mpr ⟨⟨name, rfl⟩, texts⟩⟩
    have typed := congrArg (Except.map (("type", Datum.text name) :: ·)) gathered
    exact bind_eq_ok_iff.mpr ⟨true, counts, typed⟩

theorem reported_cases (origin : Origin) (notice : Notice) :
    notice.reported origin = .nothing ∨ ∃ name message,
      notice.reported origin = .told (some (.text name)) (some message) origin.stack := by
  cases notice with
  | writeFailed action key detail fault =>
      cases fault with
      | none => exact .inl rfl
      | some fault => exact .inr ⟨_, _, rfl⟩
  | _ => exact .inl rfl

variable {op origin notice} {context : LogContext}

section

variable (told : (notice.row op).context = some context)

include told

theorem attributes_eq : (notice.record op origin).attributes = context.attributes := by
  simp [record, told]

theorem get?_attributes {name : String}
    (other : name ∉ ["cache_operation", "cache_mode", "cache_key", "cache_outcome"]) :
    (notice.record op origin).attributes.get? name = none := by
  simp only [List.mem_cons, List.not_mem_nil, or_false, not_or] at other
  obtain ⟨operation, mode, key, outcome⟩ := other
  simp [attributes_eq told, LogContext.attributes, Table.get?, Ne.symm operation, Ne.symm mode,
    Ne.symm key, Ne.symm outcome]

theorem part_eq {name : String} (own : Value)
    (other : name ∉ ["cache_operation", "cache_mode", "cache_key", "cache_outcome"]) :
    (notice.record op origin).part name own = own := by
  rw [LogRecord.part, get?_attributes told other]
  rfl

theorem messageText_eq :
    (notice.record op origin).messageText = .ok (notice.row op).message := by
  have arguments : (notice.record op origin).ownArguments =
      .tuple ((notice.arguments op).map .text) := ownArguments_of_texts rfl
  have some : (Value.tuple ((notice.arguments op).map .text)).truth = .ok true := by
    cases notice <;> rfl
  rw [LogRecord.messageText, part_eq told _ (by decide), part_eq told _ (by decide), arguments]
  simp only [some, bind, Except.bind]
  exact filled_template op notice

theorem messagePart_eq :
    (notice.record op origin).messagePart = .ok (.text (notice.row op).message) := by
  rw [LogRecord.messagePart, get?_attributes told (by decide)]
  simp only [messageText_eq told]
  rfl

theorem contextMembers_eq : (notice.record op origin).contextMembers =
    .ok [("operation", .text context.operation), ("mode", .text context.mode),
      ("key", .text context.key), ("outcome", .text context.outcome.name)] := by
  rw [LogRecord.contextMembers, attributes_eq told]
  rfl

theorem moment_eq :
    (notice.record op origin).moment = .ok (.ofUnixSeconds origin.created) := by
  rw [LogRecord.moment, part_eq told _ (by decide)]
  show (DateTime.ofReal (.ofInt origin.created)).mapError Fault.timeRefused = _
  rw [DateTime.ofReal_ofInt origin.created_lt]
  rfl

theorem exists_timeText (form : Option String)
    (clean : ∀ text, form = some text → '\x00' ∉ text.toList) :
    ∃ time, (notice.record op origin).timeText form = .ok time := by
  have formatted : ∀ text, '\x00' ∉ text.toList →
      ((DateTime.ofUnixSeconds origin.created).formatted text).mapError Fault.timeRefused =
        .ok ((DateTime.ofUnixSeconds origin.created).format text) := by
    intro text clean
    rw [DateTime.formatted_ofUnixSeconds origin.created_lt clean, Except.mapError]
  cases form with
  | some text =>
      exact ⟨_, bind_eq_ok_iff.mpr ⟨_, moment_eq told, formatted text (clean text rfl)⟩⟩
  | none =>
      have own : (notice.record op origin).part "msecs"
          (.int (notice.record op origin).milliseconds) = .int origin.milliseconds :=
        part_eq told _ (by decide)
      obtain ⟨places, placed⟩ : ∃ places,
          LogRecord.threePlaces origin.milliseconds = .ok places := by
        have small : origin.milliseconds < Nat.pow 2 32 :=
          Nat.lt_trans origin.milliseconds_lt (by decide)
        exact ⟨_, bind_eq_ok_iff.mpr ⟨_, limitedIntegerText_of_lt small, rfl⟩⟩
      refine ⟨_, bind_eq_ok_iff.mpr ⟨_, moment_eq told, bind_eq_ok_iff.mpr
        ⟨_, formatted _ (by decide), bind_eq_ok_iff.mpr ⟨origin.milliseconds, ?_,
          bind_eq_ok_iff.mpr ⟨places, placed, rfl⟩⟩⟩⟩⟩
      rw [own]
      rfl

theorem exists_errorMember (env : Environment) {limit : Int}
    (limited : stackLimit env = .ok limit) :
    ∃ error, (notice.record op origin).errorMember env = .ok error ∧
      ∀ member ∈ error, ¬ member.2.Overlong := by
  have reported : (notice.record op origin).reportedPart Reported.ofParts =
      .ok (notice.reported origin) := by
    rw [LogRecord.reportedPart, get?_attributes told (by decide)]
    rfl
  rcases reported_cases origin notice with nothing | ⟨name, message, failed⟩
  · rw [nothing] at reported
    exact ⟨[], bind_eq_ok_iff.mpr ⟨_, reported, rfl⟩, nofun⟩
  · rw [failed] at reported
    obtain ⟨members, gathered, texts⟩ := exists_failureMembers name message origin.stack
    refine ⟨_, bind_eq_ok_iff.mpr ⟨_, reported, bind_eq_ok_iff.mpr ⟨_, limited,
      bind_eq_ok_iff.mpr ⟨_, gathered, rfl⟩⟩⟩, ?_⟩
    intro member listed
    cases List.mem_singleton.mp listed
    rw [Datum.overlong_map_iff]
    rintro ⟨part, held, long⟩
    rcases List.mem_append.mp held with held | held
    · obtain ⟨words, text⟩ := texts part held
      rw [text] at long
      cases long
    · cases List.mem_singleton.mp held
      cases long

theorem exists_structured (form : Option String) (env : Environment)
    (clean : ∀ text, form = some text → '\x00' ∉ text.toList) {limit : Int}
    (limited : stackLimit env = .ok limit) :
    ∃ time error, (∀ member ∈ error, ¬ member.2.Overlong) ∧
      (notice.record op origin).structured form env =
        .ok (payload (notice.row op) context origin time error) := by
  obtain ⟨time, timed⟩ := exists_timeText told form clean
  obtain ⟨error, failed, short⟩ := exists_errorMember told env limited
  have level : (notice.record op origin).levelPart.lineDatum =
      .ok (.text (notice.row op).level.name) := by
    rw [LogRecord.levelPart, part_eq told _ (by decide)]
    exact congrArg (fun name => Except.ok (Datum.text name)) (levelName_number _)
  have logger : (notice.record op origin).loggerPart.lineDatum = .ok (.text origin.logger) := by
    rw [LogRecord.loggerPart, part_eq told _ (by decide)]
    rfl
  have process : (notice.record op origin).processPart.lineDatum =
      .ok (.int origin.process) := by
    rw [LogRecord.processPart, part_eq told _ (by decide)]
    exact bind_eq_ok_iff.mpr ⟨_, limitedIntegerText_of_lt origin.process_lt, rfl⟩
  refine ⟨time, error, short, ?_⟩
  -- One bind for each member, in the order in which they are computed.
  refine bind_eq_ok_iff.mpr ⟨_, timed, bind_eq_ok_iff.mpr ⟨_, messagePart_eq told,
    bind_eq_ok_iff.mpr ⟨_, failed, bind_eq_ok_iff.mpr ⟨_, level, bind_eq_ok_iff.mpr ⟨_, logger,
      bind_eq_ok_iff.mpr ⟨_, process, bind_eq_ok_iff.mpr ⟨.text (notice.row op).message, rfl,
        bind_eq_ok_iff.mpr ⟨_, contextMembers_eq told, ?_⟩⟩⟩⟩⟩⟩⟩⟩
  rfl

end

/-! ## Lines -/

theorem payload_not_overlong (row : LogRow) (context : LogContext) (origin : Origin)
    (time : String) {error : List (String × Datum)}
    (short : ∀ member ∈ error, ¬ member.2.Overlong) :
    ¬ (payload row context origin time error).Overlong := by
  have process : ¬ (Datum.int origin.process).Overlong := by
    rw [Datum.overlong_int_iff]
    exact Nat.not_le.mpr (lt_integerTextLimit origin.process_lt)
  have texts : ∀ s, ¬ (Datum.text s).Overlong := fun _ => nofun
  rw [payload, Datum.overlong_map_iff]
  rintro ⟨member, listed, long⟩
  rcases List.mem_append.mp listed with listed | listed
  · simp only [List.mem_cons, List.not_mem_nil, or_false] at listed
    rcases listed with rfl | rfl | rfl | rfl | rfl | rfl
    case inr.inr.inr.inl => exact process long
    case inr.inr.inr.inr.inr =>
      obtain ⟨member, listed, long⟩ := Datum.overlong_map_iff.mp long
      simp only [List.mem_cons, List.not_mem_nil, or_false] at listed
      rcases listed with rfl | rfl | rfl | rfl <;> exact texts _ long
    all_goals exact texts _ long
  · exact short member listed long

theorem exists_jsonLine (op : Operation) (origin : Origin) (notice : Notice)
    {form : Option String} {env : Environment}
    (clean : ∀ text, form = some text → '\x00' ∉ text.toList) {limit : Int}
    (limited : stackLimit env = .ok limit) :
    ∃ context time error, (notice.row op).context = some context ∧
      (notice.record op origin).jsonLine form env = .ok (String.ofList
        ((payload (notice.row op) context origin time error).written Datum.line)) := by
  obtain ⟨context, told⟩ := exists_context op notice
  have clean' : ∀ text, nonEmpty? form = some text → '\x00' ∉ text.toList := by
    intro text given
    refine clean text ?_
    unfold nonEmpty? at given
    split at given
    · cases given
    · exact given
  obtain ⟨time, error, short, structured⟩ : ∃ time error,
      (∀ member ∈ error, ¬ member.2.Overlong) ∧
        (notice.record op origin).structured (nonEmpty? form) env =
          .ok (payload (notice.row op) context origin time error) :=
    exists_structured told _ env clean' limited
  have printed : (payload (notice.row op) context origin time error).chars Datum.line =
      .ok ((payload (notice.row op) context origin time error).written Datum.line) :=
    Datum.chars_eq_ok_iff.mpr ⟨payload_not_overlong _ context origin time short, rfl⟩
  exact ⟨context, time, error, told, bind_eq_ok_iff.mpr ⟨_, structured,
    bind_eq_ok_iff.mpr ⟨_, printed, rfl⟩⟩⟩

/-! ## Reading a line back -/

theorem payload_inj {row row' : LogRow} {context context' : LogContext}
    {origin origin' : Origin} {time time' : String} {error error' : List (String × Datum)}
    (same : Datum.Same false (payload row context origin time error)
      (payload row' context' origin' time' error')) :
    row.level = row'.level ∧ origin.logger = origin'.logger ∧ row.message = row'.message ∧
      context = context' := by
  have values := Datum.same_map_values same
  simp only [List.map_append, List.map_cons, List.cons_append, List.forall₂_cons,
    Datum.same_text_iff] at values
  -- The failure comes last, so the members in front of it stand in the same places.
  obtain ⟨-, level, logger, -, message, interception, -⟩ := values
  have parts := Datum.same_map_values interception
  simp only [List.map_cons, List.forall₂_cons, Datum.same_text_iff] at parts
  obtain ⟨operation, mode, key, outcome, -⟩ := parts
  refine ⟨Level.name_injective level, logger, message, ?_⟩
  cases context
  cases context'
  cases Outcome.name_injective outcome
  cases operation
  cases mode
  cases key
  rfl

/-- No notice that differs in its level, logger, message or interception has the same line.  What
calls log are rows of notices, by `Operation.exists_notice_of_logged`. -/
theorem json_lines_unforgeable (op op' : Operation) (origin origin' : Origin)
    (notice notice' : Notice) {form form' : Option String} {env env' : Environment}
    {limit limit' : Int}
    (clean : ∀ text, form = some text → '\x00' ∉ text.toList)
    (clean' : ∀ text, form' = some text → '\x00' ∉ text.toList)
    (limited : stackLimit env = .ok limit) (limited' : stackLimit env' = .ok limit') :
    ∃ line line', (notice.record op origin).jsonLine form env = .ok line ∧
      (notice'.record op' origin').jsonLine form' env' = .ok line' ∧
      (∀ c ∈ line.toList, 0x20 ≤ c.toNat) ∧
      (line = line' → ∃ message context,
        (notice.record op origin).level = (notice'.record op' origin').level ∧
        (notice.record op origin).logger = (notice'.record op' origin').logger ∧
        (notice.record op origin).messageText = .ok message ∧
        (notice'.record op' origin').messageText = .ok message ∧
        (notice.record op origin).attributes = LogContext.attributes context ∧
        (notice'.record op' origin').attributes = LogContext.attributes context) := by
  obtain ⟨context, time, error, told, lined⟩ := exists_jsonLine op origin notice clean limited
  obtain ⟨context', time', error', told', lined'⟩ :=
    exists_jsonLine op' origin' notice' clean' limited'
  refine ⟨_, _, lined, lined', ?_, fun equal => ?_⟩
  · rw [String.toList_ofList]
    exact Datum.unbroken_written (by decide) (by decide) _
  have same : Datum.Same false (payload (notice.row op) context origin time error)
      (payload (notice'.row op') context' origin' time' error') :=
    (Datum.same_iff_written Datum.line rfl).mpr (String.ofList_injective equal)
  obtain ⟨level, logger, message, rfl⟩ := payload_inj same
  have number : ((notice.row op).level.number : Int) = (notice'.row op').level.number := by
    rw [level]
  have spoken : (notice'.record op' origin').messageText = .ok (notice.row op).message := by
    rw [message]
    exact messageText_eq told'
  exact ⟨_, context, number, logger, messageText_eq told, spoken, attributes_eq told,
    attributes_eq told'⟩

/-- Keys that differ by an escaped line end, in the reports of puts that failed. -/
theorem json_lines_unforgeable_line_ends :
    let down : Fault := .outside
      (.mk .connection (some "down\n\x7b\"level\": \"INFO\"\x7d") none none false)
    let origin : Origin := ⟨"cache_decorator.engine", 1700000000, 123, 4321, "Traceback\n",
      by decide, by decide, by decide⟩
    let report key := (writeFailed .put key down.message (some down)).record findUser origin
    let other := report "user:\\n"
    stackLimit [] = .ok 4000 ∧ stackLimit [("LOG_STACK_LIMIT", "0")] = .ok 0 ∧
      ∃ line line', (report "user:\n").jsonLine none [] = .ok line ∧
        other.jsonLine (some "%H:%M") [("LOG_STACK_LIMIT", "0")] = .ok line' ∧
        (∀ c ∈ line.toList, 0x20 ≤ c.toNat) ∧ line ≠ line' := by
  intro down origin report other
  have limited : stackLimit [] = .ok 4000 := rfl
  have limited' : stackLimit [("LOG_STACK_LIMIT", "0")] = .ok 0 := rfl
  have clean : ∀ text, (none : Option String) = some text → '\x00' ∉ text.toList := nofun
  have clean' : ∀ text, some "%H:%M" = some text → '\x00' ∉ text.toList := by
    rintro _ ⟨⟩
    decide
  obtain ⟨line, line', lined, lined', clear, readBack⟩ := json_lines_unforgeable findUser findUser
    origin origin (writeFailed .put "user:\n" down.message (some down))
    (writeFailed .put "user:\\n" down.message (some down)) clean clean' limited limited'
  refine ⟨limited, limited', line, line', lined, lined', clear, fun equal => ?_⟩
  obtain ⟨message, context, -, -, -, -, attributes, attributes'⟩ := readBack equal
  have keys := attributes.trans attributes'.symm
  revert keys
  simp [record, row, Operation.writeFailedRow, Operation.row, LogContext.attributes]

end Notice

end CachePolicy
