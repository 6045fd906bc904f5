import CachePolicy.Value.Attribute
import CachePolicy.Value.Hashable
import CachePolicy.Value.Number
import CachePolicy.Value.Shown
import CachePolicy.Value.Truth

/-!
# Traces

The steps that led to a failure, when a value tells them: a step has a frame with its code,
a line, and the step that it led to.  A limit keeps that many of the first steps, or of the
last ones if it is negative.  A step that is repeated is written three times.
-/

namespace CachePolicy

def Value.required (v : Value) (name : String) : Except Fault Value := do
  match ← v.attribute? name with
  | some part => return part
  | none => throw (v.lack name)

structure TraceStep where
  frame : Value
  code : Value
  line : Value

/-- Where a step was: the place and the name of its code, and its line. -/
structure TracePlace where
  file : Value
  line : Value
  name : Value

namespace TraceStep

/-- The step that a value tells.  The place of the step in its code must not be given. -/
def ofValue (v : Value) : Except Fault TraceStep := do
  let frame ← v.required "tb_frame"
  let code ← frame.required "f_code"
  if ← (← v.required "tb_lasti").atLeast 0 then
    let _ ← code.required "co_positions"
    throw .formatMismatch
  return ⟨frame, code, ← v.required "tb_lineno"⟩

/-- A step and those behind it, up to the first that cannot be told. -/
def chain (v : Value) (behind : List (String × List (Except Fault TraceStep))) :
    List (Except Fault TraceStep) :=
  if v.isNull then []
  else
    match ofValue v with
    | .error fault => [.error fault]
    | .ok step =>
        .ok step ::
          match v.required "tb_next" with
          | .error fault => [.error fault]
          | .ok _ => (behind.lookup "tb_next").getD []

mutual

/-- The steps that the attributes of a value tell, by the name of the attribute. -/
def behind : Value → List (String × List (Except Fault TraceStep))
  | .object _ attributes _ _ _ => behindFields attributes
  | .data _ fields _ | .named _ fields => behindFields fields
  | .refusing _ value => behind value
  | _ => []

def behindFields : List (String × Value) → List (String × List (Except Fault TraceStep))
  | [] => []
  | (name, v) :: rest => (name, chain v (behind v)) :: behindFields rest

end

def allOf (v : Value) : List (Except Fault TraceStep) := chain v (behind v)

/-- The numbers that count positions are less than this. -/
def positionLimit : Int := Nat.pow 2 63

/-- The steps that a limit keeps.  To keep the last ones, all have to be there. -/
def kept (limit : Value) (steps : List (Except Fault TraceStep)) :
    Except Fault (List (Except Fault TraceStep)) := do
  if limit.isNull then return steps
  if ← limit.atLeast 0 then
    match limit.integer with
    | .ok n => if n < positionLimit then return steps.take n.toNat else throw .limitForm
    | .error _ => throw .limitForm
  else
    let n ← limit.integer
    if -n < positionLimit then
      let all ← steps.mapM id
      return (all.drop (all.length - (-n).toNat)).map .ok
    else throw .limitTooLarge

/-- Whether a text stands between angle brackets, as the names of places do that are no files. -/
def isBracketed (words : String) : Bool :=
  words.toList.head? = some '<' && words.toList.getLast? = some '>'

/-- Whether the names that a frame sees can be asked for one. -/
def asksNames (names : Value) : Except Fault Unit := do
  if ← names.truth then
    match names.bare with
    | .dict _ _ | .list _ | .tuple _ | .set _ _ | .named _ _ => return
    | names => if names.text?.isNone then throw .formatMismatch

def place (step : TraceStep) : Except Fault TracePlace := do
  let file ← step.code.required "co_filename"
  let name ← step.code.required "co_name"
  if let some fault := file.hashFault? then throw fault
  let names ← step.frame.required "f_globals"
  if ← file.truth then
    match file.text? with
    | some words => if !isBracketed words then asksNames names
    | none =>
        let _ ← file.required "startswith"
        throw .formatMismatch
  return ⟨file, step.line, name⟩

end TraceStep

namespace TracePlace

def checkLine (p : TracePlace) : Except Fault Unit := do
  if !p.line.isNull then let _ ← p.line.atLeast 1

def text (p : TracePlace) : Except Fault String := do
  return "  File \"" ++ (← p.file.display) ++ "\", line " ++ (← p.line.display) ++ ", in " ++
    (← p.name.display) ++ "\n"

end TracePlace

def repeatedText (lines : List String) : List String :=
  match lines.length - 3 with
  | 0 => lines
  | more => lines.take 3 ++
      ["  [Previous line repeated " ++ toString more ++ " more time" ++
        (if more = 1 then "" else "s") ++ "]\n"]

/-- The text of a trace of which a limit may keep only some steps; without a step there is none. -/
def Value.traceText (trace limit : Value) : Except Fault String := do
  let steps ← TraceStep.kept limit (TraceStep.allOf trace)
  let places ← steps.mapM fun step => do (← step).place
  places.forM (·.checkLine)
  if places.isEmpty then return ""
  let lines ← places.mapM (·.text)
  return "Traceback (most recent call last):\n" ++
    String.join ((lines.splitBy (· == ·)).flatMap repeatedText)

end CachePolicy
