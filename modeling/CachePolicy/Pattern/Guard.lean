import CachePolicy.Pattern.Matching

/-!
# Guards

A guard decides from the result of an operation whether its cache action is taken.
`always` is the guard of an operation that declares none; `oneOf` takes patterns in
order, and never holds for an empty list.
-/

namespace CachePolicy

inductive Guard where
  | always
  | oneOf (patterns : List Pattern)

namespace Guard

/-- A list declares alternatives, any other value one pattern, and the unset marker nothing. -/
def ofValue (v : Value) : Guard :=
  match v.bare with
  | .unset => always
  | .list items => oneOf (patternsOf items)
  | _ => oneOf [Pattern.ofValue v]

def patterns? : Guard → Option (List Pattern)
  | always => none
  | oneOf patterns => some patterns

/-- The first pattern that holds of a value, with its position counted from a start. -/
def firstMatch? (v : Value) : Nat → List Pattern → Except Fault (Option (Nat × Pattern))
  | _, [] => .ok none
  | position, p :: rest =>
      match p.matches v with
      | .ok true => .ok (some (position, p))
      | .ok false => firstMatch? v (position + 1) rest
      | .error fault => .error fault

def select? (v : Value) : Guard → Except Fault (Option (Nat × Pattern))
  | always => .ok (some (0, .any))
  | oneOf patterns => firstMatch? v 0 patterns

def holds (g : Guard) (v : Value) : Except Fault Bool := do
  return (← g.select? v).isSome

def equal : Guard → Guard → Except Fault Bool
  | always, always => .ok true
  | oneOf ps, oneOf qs => comparePatterns false ps qs
  | _, _ => .ok false

end Guard

end CachePolicy
