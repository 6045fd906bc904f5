import CachePolicy.Value.Attribute
import CachePolicy.Value.Member

/-!
# Matching

A pattern holds of a value or not; only a value that refuses to be read and the
abstract pattern make matching fail.  Any value converts into a pattern: a tuple into
a shape over its converted elements, and all but patterns into an exact pattern.
-/

namespace CachePolicy

/-- Equality with a failure counted as a difference; a flag never equals a number. -/
def exactlyEqual (expected v : Value) : Bool :=
  expected.isFlag == v.isFlag &&
    match v.equal expected with
    | .ok answer => answer
    | .error _ => false

mutual

def Pattern.matches : Pattern → Value → Except Fault Bool
  | .any, _ => .ok true
  | .exact expected, v => .ok (exactlyEqual expected v)
  | .shape elements, v =>
      match v.tupleItems? with
      | some items => if items.length = elements.length then allMatch elements items else .ok false
      | none => .ok false
  | .record cls fields, v => if v.isA cls then fieldsMatch fields v else .ok false
  | .abstract, _ => .error .abstractPattern

def allMatch : List Pattern → List Value → Except Fault Bool
  | p :: ps, v :: vs => andThen (p.matches v) fun _ => allMatch ps vs
  | _, _ => .ok true

def fieldsMatch : List (String × Pattern) → Value → Except Fault Bool
  | [], _ => .ok true
  | (name, p) :: rest, v =>
      match v.field? name with
      | .ok (some field) => andThen (p.matches field) fun _ => fieldsMatch rest v
      | .ok none => .ok false
      | .error fault => .error fault

end

/-! ## Conversion -/

/-- Whether a value converts into a pattern of its own form, and is not just compared with. -/
def Value.hasPattern : Value → Bool
  | .pattern _ | .tuple _ | .named _ _ => true
  | .refusing _ value => value.hasPattern
  | _ => false

mutual

def Pattern.ofValue : Value → Pattern
  | .pattern p => p
  | .tuple items => .shape (patternsOf items)
  | .named _ fields => .shape (fieldPatterns fields)
  | .refusing refusals value =>
      if value.hasPattern then Pattern.ofValue value else .exact (.refusing refusals value)
  | v => .exact v

def patternsOf : List Value → List Pattern
  | [] => []
  | v :: rest => Pattern.ofValue v :: patternsOf rest

def fieldPatterns : List (String × Value) → List Pattern
  | [] => []
  | (_, v) :: rest => Pattern.ofValue v :: fieldPatterns rest

end

end CachePolicy
