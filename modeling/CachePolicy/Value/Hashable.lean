import CachePolicy.Value.Member
import CachePolicy.Value.Refusal

/-!
# Values as keys

A value can be a key of a mapping or an element of a set unless it can change, or a part
of it can.  A member of an enumeration and an object stand for themselves, whatever they
hold.
-/

namespace CachePolicy

mutual

/-- What keeps a value from being looked up in a mapping, the first part that does.  A record
reads all of its fields before it asks any of them. -/
def Value.hashFault? : Value → (refusals : Refusals := []) → Option Fault
  | .scalar (.decimal (.nan _ true _)), _ => some .unhashable
  | .scalar s, _ => if s.ownClass.isUnhashable then some .unhashable else none
  | .list _, _ | .dict _ _, _ | .set false _, _ => some .unhashable
  | .set true _, _ | .member _ _ _ _, _ | .object _ _ _ _ _, _ | .known _ _, _ => none
  | .tuple items, _ => hashFaultOfItems? items
  | .data cls fields missing, refusals =>
      ((Value.data cls fields missing).recordFault? refusals).or (hashFaultOfFields? fields)
  | .named _ fields, _ => hashFaultOfFields? fields
  | .lookup _ value, _ => value.hashFault?
  | .pattern p, _ => p.hashFault?
  | .refusing more value, refusals => value.hashFault? (refusals ++ more)

def Pattern.hashFault? : Pattern → Option Fault
  | .any | .abstract => none
  | .exact value => value.hashFault?
  | .shape elements => hashFaultOfPatterns? elements
  | .record _ fields => hashFaultOfMatchers? fields

def hashFaultOfItems? : List Value → Option Fault
  | [] => none
  | v :: rest => v.hashFault?.or (hashFaultOfItems? rest)

def hashFaultOfFields? : List (String × Value) → Option Fault
  | [] => none
  | (_, v) :: rest => v.hashFault?.or (hashFaultOfFields? rest)

def hashFaultOfPatterns? : List Pattern → Option Fault
  | [] => none
  | p :: rest => p.hashFault?.or (hashFaultOfPatterns? rest)

def hashFaultOfMatchers? : List (String × Pattern) → Option Fault
  | [] => none
  | (_, p) :: rest => p.hashFault?.or (hashFaultOfMatchers? rest)

end

end CachePolicy
