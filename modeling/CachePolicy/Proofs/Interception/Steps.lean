import CachePolicy.Interception.Notice
import CachePolicy.Proofs.Interception.Trace

/-!
# Steps of an interception

Every step that the program of a call can come to: it ends, it runs the operation, it logs
a notice, it asks for a write, or it reads and goes on with the lookup.  What holds of each
such step holds all along a call, on every backend.
-/

namespace CachePolicy

namespace Program

/-- The property holds of the program, and of all that it may go on with. -/
inductive Always (P : Program → Prop) : Program → Prop
  | done {result : Except Fault Value} (here : P (.done result)) : Always P (.done result)
  | log {row : LogRow} {rest : Program} (here : P (.log row rest)) (further : Always P rest) :
      Always P (.log row rest)
  | ask {request : Request} {next : Except Fault Reply → Program} (here : P (.ask request next))
      (further : ∀ reply, Always P (next reply)) : Always P (.ask request next)
  | await {request : Request} {next : Except Fault Value → Program}
      (here : P (.await request next)) (further : ∀ answer, Always P (next answer)) :
      Always P (.await request next)
  | run {next : Except Fault Value → Program} (here : P (.run next))
      (further : ∀ result, Always P (next result)) : Always P (.run next)

end Program

namespace Operation

/-- The steps of calls of an operation have the property. -/
structure Permits (op : Operation) (P : Program → Prop) : Prop where
  done : ∀ result, P (.done result)
  run : ∀ next, P (.run next)
  log : ∀ (notice : Notice) rest, P (.log (notice.row op) rest)
  write : ∀ request next, request.method ≠ "get" → P (.ask request next)
  writeAwaiting : ∀ request next, request.method ≠ "get" → P (.await request next)
  read : ∀ config key store next,
    (∀ v, next (.ok (.value v)) = op.afterLookup key store (.ofReply v)) →
      P (.ask (.get config key) next)
  readAwaiting : ∀ config key store next,
    (∀ v, next (.ok v) = op.afterLookup key store (.ofReply v)) → P (.await (.get config key) next)

variable {op : Operation} {P : Program → Prop} (permits : op.Permits P)

include permits

theorem unlessFault_always {α : Type} {next : α → Program} (further : ∀ a, (next a).Always P)
    (result : Except Fault α) : (Program.unlessFault next result).Always P := by
  cases result with
  | error fault => exact .done (permits.done _)
  | ok a => exact further a

theorem caught_always {α : Type} {recover : Fault → Program} {next : α → Program}
    (recovers : ∀ fault, (recover fault).Always P) (further : ∀ a, (next a).Always P)
    (result : Except Fault α) : (Program.caught recover next result).Always P := by
  cases result with
  | error fault =>
      change (if fault.isInterrupt then .done (.error fault) else recover fault).Always P
      split
      · exact .done (permits.done _)
      · exact recovers fault
  | ok a => exact further a

theorem atOnce_always (request : Request) {next : Value → Program}
    (further : ∀ v, (next v).Always P) (reply : Reply) :
    (op.atOnce request next reply).Always P := by
  cases reply with
  | value v => exact further v
  | pending => exact .done (permits.done _)

theorem callThrough_always : callThrough.Always P :=
  .run (permits.run _) fun _ => .done (permits.done _)

theorem readFailed_always (key : String) (fault : Fault) : (op.readFailed key fault).Always P :=
  .log (permits.log (.readFailed key fault) _) (callThrough_always permits)

theorem writeFailed_always (action : WriteAction) (key : String) (fault : Option Fault) :
    (op.writeFailed action key fault).Always P :=
  .log (permits.log (.writeFailed action key _ fault) _) (.done (permits.done _))

theorem writeAnswered_always (action : WriteAction) (key : String) (value answer : Value) :
    (op.writeAnswered action key value answer).Always P := by
  unfold writeAnswered
  split
  · exact writeFailed_always permits action key none
  · exact .log (permits.log (.written action key) _) (.done (permits.done _))

theorem write_always (action : WriteAction) {request : Request} (key : String) (value : Value)
    (isWrite : request.method ≠ "get") : (op.write action request key value).Always P :=
  .ask (permits.write request _ isWrite) (caught_always permits
    (fun fault => writeFailed_always permits action key (some fault))
    (atOnce_always permits request (writeAnswered_always permits action key value)))

theorem writeAwaiting_always (action : WriteAction) {request : Request} (key : String)
    (value : Value) (isWrite : request.method ≠ "get") :
    (op.writeAwaiting action request key value).Always P := by
  have answered : ∀ answer : Except Fault Value,
      (Program.caught (fun fault => op.writeFailed action key (some fault))
        (op.writeAnswered action key value) answer).Always P :=
    caught_always permits (fun fault => writeFailed_always permits action key (some fault))
      (writeAnswered_always permits action key value)
  refine .ask (permits.write request _ isWrite) fun reply => ?_
  rcases reply with fault | (v | _)
  · exact answered (.error fault)
  · exact answered (.ok v)
  · exact .await (permits.writeAwaiting request _ isWrite) answered

theorem ifGuarded_always (value : Value) {passed : Program} (notice : Notice)
    (further : passed.Always P) : (op.ifGuarded value passed (notice.row op)).Always P := by
  unfold ifGuarded
  split
  · exact .done (permits.done _)
  · exact further
  · exact .log (permits.log notice _) (.done (permits.done _))

theorem afterLookup_always (key : String) {store : Value → Program}
    (stored : ∀ value, (store value).Always P) (lookup : Lookup) :
    (op.afterLookup key store lookup).Always P := by
  unfold afterLookup
  split
  · exact .log (permits.log (.hit key) _) (.done (permits.done _))
  split
  · exact .log (permits.log (.unavailable key) _) (callThrough_always permits)
  · exact .log (permits.log (.miss key) _) (.run (permits.run _) (unlessFault_always permits
      fun value => ifGuarded_always permits value (.notStored key) (stored value)))

theorem runThenDelete_always (bindings : Bindings) {delete : String → Value → Program}
    (deleted : ∀ key value, (delete key value).Always P) :
    (op.runThenDelete bindings delete).Always P :=
  .run (permits.run _) (unlessFault_always permits fun value =>
    ifGuarded_always permits value .notInvalidated
      (unlessFault_always permits (fun key => deleted key value) _))

theorem interception_always (style : CallStyle) (bindings : Bindings) (config : Value) :
    (op.interception style bindings config).Always P := by
  have isPut : ∀ key value, (Request.put config key value op.options).method ≠ "get" := by
    simp [Request.method]
  have isDelete : ∀ key, (Request.delete config key).method ≠ "get" := by simp [Request.method]
  unfold interception intercept interceptAwaiting
  cases style <;> cases op.mode
  case direct.cache =>
    refine unlessFault_always permits (fun key => ?_) _
    refine .ask (permits.read config key _ _ fun v => rfl)
      (caught_always permits (readFailed_always permits key) (atOnce_always permits _ fun v => ?_))
    exact afterLookup_always permits key
      (fun value => write_always permits .put key value (isPut key value)) _
  case direct.invalidate =>
    exact runThenDelete_always permits bindings
      fun key value => write_always permits .delete key value (isDelete key)
  case awaiting.cache =>
    refine unlessFault_always permits (fun key => ?_) _
    have answered := caught_always permits (readFailed_always permits key) fun answer =>
      afterLookup_always permits key
        (fun value => writeAwaiting_always permits .put key value (isPut key value))
        (.ofReply answer)
    refine .ask (permits.read config key _ _ fun v => rfl) fun reply => ?_
    rcases reply with fault | (v | _)
    · exact answered (.error fault)
    · exact answered (.ok v)
    · exact .await (permits.readAwaiting config key _ _ fun v => rfl) answered
  case awaiting.invalidate =>
    exact runThenDelete_always permits bindings
      fun key value => writeAwaiting_always permits .delete key value (isDelete key)

end Operation

/-! ## What calls log -/

def Program.LogsOnly (kind : LogRow → Prop) : Program → Prop
  | .log row _ => kind row
  | _ => True

theorem Program.Always.logged {kind : LogRow → Prop} {p : Program}
    (always : p.Always (Program.LogsOnly kind)) {σ : Type} (h : Handler σ) (s : σ) {row : LogRow}
    (logged : .logged row ∈ p.trace h s) : kind row := by
  induction always generalizing s with
  | done here => cases logged
  | log here further ih =>
      rcases List.mem_cons.mp logged with first | later
      · cases first
        exact here
      · exact ih _ later
  | ask here further ih | await here further ih | run here further ih =>
      exact ih _ _ ((List.mem_cons.mp logged).resolve_left nofun)

/-- Calls give no other notices to the logger, on whatever backend. -/
theorem Operation.exists_notice_of_logged {op : Operation} {style : CallStyle}
    {bindings : Bindings} {config : Value} {σ : Type} {h : Handler σ} {s : σ} {row : LogRow}
    (logged : .logged row ∈ (op.interception style bindings config).trace h s) :
    ∃ notice : Notice, row = notice.row op := by
  have permits : op.Permits (Program.LogsOnly fun row => ∃ notice : Notice, row = notice.row op) :=
    { done := fun _ => trivial
      run := fun _ => trivial
      log := fun notice _ => ⟨notice, rfl⟩
      write := fun _ _ _ => trivial
      writeAwaiting := fun _ _ _ => trivial
      read := fun _ _ _ _ _ => trivial
      readAwaiting := fun _ _ _ _ _ => trivial }
  exact (Operation.interception_always permits style bindings config).logged h s logged

end CachePolicy
