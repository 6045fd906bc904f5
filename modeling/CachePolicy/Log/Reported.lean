import CachePolicy.Log.Trace

/-!
# Reported failures

What a log record tells about a failure.  A failure is written out behind its cause or
the context it arose in.  It may also be told by a value with parts for its class, the
failure and its trace.  No value is a failure, but one that has the attributes of a failure
is told like one, and null tells that there was none.
-/

namespace CachePolicy

/-! ## Failures at length -/

namespace Failure

def finalLine (f : Failure) : String :=
  if f.message = "" then f.kind.qualifiedName ++ "\n"
  else f.kind.qualifiedName ++ ": " ++ f.message ++ "\n"

def causeSentence : String :=
  "\nThe above exception was the direct cause of the following exception:\n\n"

def contextSentence : String :=
  "\nDuring handling of the above exception, another exception occurred:\n\n"

/-- A failure behind its cause, or else behind its context unless that is suppressed. -/
def fullText : Failure → String
  | mk kind argument (some cause) context suppress =>
      fullText cause ++ causeSentence ++
        finalLine (mk kind argument (some cause) context suppress)
  | mk kind argument none (some context) false =>
      fullText context ++ contextSentence ++
        finalLine (mk kind argument none (some context) false)
  | f => finalLine f

end Failure

/-! ## Values told as failures -/

namespace Value

/-- The values that a value consists of, with the name of its kind, if they have positions. -/
def sequence? (v : Value) : Option (String × List Value) :=
  match v.bare with
  | list items => some ("list", items)
  | tuple items => some ("tuple", items)
  | named _ fields => some ("tuple", fields.map (·.2))
  | scalar (.bytes octets) => some ("", octets.map fun octet => .int octet.toNat)
  | scalar (.buffer octets) => some ("bytearray", octets.map fun octet => .int octet.toNat)
  | v => v.text?.map fun words =>
      ("string", words.toList.map fun c => .text (String.ofList [c]))

/-- Remarks are told line by line, and anything but a sequence of them is shown. -/
def remarkLines (remarks : Value) : String :=
  match remarks.sequence? with
  | some (_, items) =>
      String.join (items.map fun item =>
        let words := item.display.toOption.getD "<note str() failed>"
        String.join ((words.splitOn "\n").map (· ++ "\n")))
  | none => remarks.shown.toOption.getD "<__notes__ repr() failed>"

def remarkText (v : Value) : String :=
  match v.attribute? "__notes__" with
  | .ok none | .ok (some .null) => ""
  | .ok (some remarks) => remarks.remarkLines
  | .error fault => "Ignored error getting __notes__: " ++ fault.name ++ "(" ++
      quoted fault.message ++ ")\n"

/-- The text of a value told as a failure without what led to it. -/
def finalText (v limit trace : Value) : Except Fault String := do
  let steps ← trace.traceText limit
  if !v.isNull then let _ ← v.required "__suppress_context__"
  let words := v.display.toOption.getD "<exception str() failed>"
  return steps ++ v.ownClass.qualifiedName ++ (if words = "" then "" else ": " ++ words) ++ "\n" ++
    v.remarkText

/-- The text in front of a value told as a failure: that of its cause, or else that of its context
unless that is suppressed, each behind the text in front of it. -/
def leadingText (limit v : Value) (inFront : List (String × Except Fault String)) :
    Except Fault String := do
  if v.isNull then return ""
  if !(← v.truth) then return ""
  let cause ← v.required "__cause__"
  if !cause.isNull then
    let text ← cause.finalText limit (← cause.required "__traceback__")
    let _ ← v.required "__context__"
    return (← (inFront.lookup "__cause__").getD (.ok "")) ++ text ++ Failure.causeSentence
  let suppressed ← (← v.required "__suppress_context__").truth
  let context ← v.required "__context__"
  if suppressed || context.isNull then return ""
  let text ← context.finalText limit (← context.required "__traceback__")
  return (← (inFront.lookup "__context__").getD (.ok "")) ++ text ++ Failure.contextSentence

mutual

/-- The texts in front of the attributes of a value, by the name of the attribute. -/
def inFront (limit : Value) : Value → List (String × Except Fault String)
  | object _ attributes _ _ _ => inFrontOfFields limit attributes
  | data _ fields _ => inFrontOfFields limit fields
  | refusing _ value => inFront limit value
  | _ => []

def inFrontOfFields (limit : Value) : List (String × Value) → List (String × Except Fault String)
  | [] => []
  | (name, v) :: rest =>
      (name, leadingText limit v (inFront limit v)) :: inFrontOfFields limit rest

end

/-- The text in front of a value whose parts may lead to further ones. -/
def priorText (limit v : Value) : Except Fault String := leadingText limit v (inFront limit v)

/-- The whole text of a value told as a failure, or only its end. -/
def toldText (v trace limit whole : Value) : Except Fault String := do
  let final ← v.finalText limit trace
  let start ← priorText limit v
  return (if ← whole.truth then start else "") ++ final

end Value

/-! ## Reports -/

/-- The failure that is reported.  It may be told by a value, with a name for its class and a
message of its own if they count as true. -/
inductive Reported where
  | nothing
  | told (kind : Option Value) (message : Option String) (text : String)
  | failure (f : Failure)

namespace Reported

/-- A failure was to be reported when there was none. -/
def absent : Reported := told none none "NoneType: None\n"

def fullText? : Reported → Option String
  | nothing => none
  | told _ _ text => some text
  | failure f => some f.fullText

/-- What stands at a position of a value: an item of a sequence, or the value of a mapping for the
number of the position. -/
def part (v : Value) (position : Nat) : Except Fault Value :=
  match v.bare with
  | .dict _ entries =>
      match entries.find? fun entry => entry.1.sameKey (.int position) with
      | some entry => .ok entry.2
      | none => .error (.positionUnknown position)
  | .scalar (.kind c) =>
      .error (if c.isEnumeration then .positionUnknown position else .formatMismatch)
  | v =>
      match v.sequence? with
      | some (kind, items) =>
          match items[position]? with
          | some item => .ok item
          | none => .error (.positionMissing kind)
      | none => .error .formatMismatch

/-- What a value consists of when it is gone through: the items of a sequence, or the keys of a
mapping. -/
def parts (v : Value) : Except Fault (List Value) :=
  match v.bare, v.sequence? with
  | .dict _ entries, _ => .ok (entries.map (·.1))
  | _, some (_, items) => .ok items
  | _, none => .error .formatMismatch

/-- The name of a value as a class, if it is not one of the values that count as false. -/
def className? (v : Value) : Except Fault (Option Value) := do
  if ← v.truth then return some (← v.required "__name__") else return none

/-- Reads a report from its parts.  Its first two parts give the class and the message; the failure
itself, its trace, the limit of that and whether the text is to be whole are given in order. -/
def ofParts (v : Value) : Except Fault Reported := do
  let kind ← className? (← part v 0)
  let failed ← part v 1
  let message ← if ← failed.truth then some <$> failed.display else pure none
  match ← parts v with
  | [_, failed, trace] => return told kind message (← failed.toldText trace .null (.flag true))
  | [_, failed, trace, limit] =>
      return told kind message (← failed.toldText trace limit (.flag true))
  | [_, failed, trace, limit, whole] =>
      return told kind message (← failed.toldText trace limit whole)
  | _ :: _ :: _ :: _ => throw .formatMismatch
  | _ => throw .halfReport

/-- Reads a report for which only its second and third part count. -/
def ofLastParts (v : Value) : Except Fault Reported := do
  let trace ← part v 2
  return told none none (← (← part v 1).toldText trace .null (.flag true))

end Reported

end CachePolicy
