import CachePolicy.Value.Refusal
import CachePolicy.Value.Truth

/-!
# Equality of values

Numbers are equal by value, whatever their kind, and flags count as numbers.
`sameKey` compares keys of mappings and elements of sets; it never asks an object.
`equal` compares any two values; it asks an object's own equality, the left operand's
first, so it can fail.  An object without one equals nothing but itself, and two
mentions of an object are two objects.
-/

namespace CachePolicy

namespace Scalar

/-- Whether two scalars are equal; there is no answer for a signaling NaN and a number. -/
def equal? (s t : Scalar) : Option Bool :=
  match s.numeral?, t.numeral? with
  | some m, some n => m.equal? n
  | none, none => some (match s, t with
    | bytes x, bytes y | bytes x, buffer y | buffer x, bytes y | buffer x, buffer y => x = y
    | dateTime x, dateTime y => x.same y
    | time x, time y => x.same y
    | handle _, _ | lock, _ => false
    | s, t => s = t)
  | _, _ => some false

end Scalar

namespace Value

/-- Whether two values are one member that differs from itself, since it is not a number.
Containers and records count it as equal even so. -/
def isOneMember (a b : Value) : Bool :=
  match a.bare, b.bare with
  | member (.float .nan) cls name _, member (.float .nan) cls' name' _ =>
      cls = cls' && name = name'
  | _, _ => false

def isMember (cls name : String) (b : Value) : Bool :=
  match b.bare with
  | member .plain cls' name' _ => cls = cls' && name = name'
  | _ => false

def tupleItems? : Value → Option (List Value)
  | tuple items => some items
  | named _ fields => some (fields.map (·.2))
  | refusing _ value => value.tupleItems?
  | _ => none

end Value

/-! ## Keys -/

def Scalar.sameKey (s : Scalar) (b : Value) : Bool :=
  match b.unwrapped with
  | .scalar t => s.equal? t == some true
  | _ => false

mutual

def Value.sameKey : Value → Value → Bool
  | .scalar s, b => s.sameKey b
  | .member mixin cls name v, b =>
      match mixin.content? with
      | some s => (Value.member mixin cls name v).isOneMember b || s.sameKey b
      | none => b.isMember cls name
  | .tuple xs, b =>
      match b.tupleItems? with
      | some ys => sameKeys xs ys
      | none => false
  | .named _ fields, b =>
      match b.tupleItems? with
      | some ys => sameFieldKeys fields ys
      | none => false
  | .set _ xs, b =>
      match b.bare with
      | .set _ ys => xs.length = ys.length && keysWithin xs ys
      | _ => false
  | .data cls fields missing, b =>
      match b.bare with
      | .data cls' fields' missing' =>
          cls = cls' && missing.isEmpty && missing'.isEmpty &&
            fields.map (·.1) = fields'.map (·.1) && sameFieldKeys fields (fields'.map (·.2))
      | _ => false
  | .lookup s v, b =>
      match b.bare with
      | .lookup t w => s.name = t.name && v.sameKey w
      | _ => false
  | .pattern p, b =>
      match b.bare with
      | .pattern q => p.sameKey q
      | _ => false
  | .refusing _ v, b => v.sameKey b
  | _, _ => false
termination_by structural x => x

def Pattern.sameKey : Pattern → Pattern → Bool
  | .any, .any => true
  | .exact v, .exact w => v.sameKey w
  | .shape ps, .shape qs => samePatternKeys ps qs
  | .record cls fields, .record cls' fields' => cls = cls' && sameMatcherKeys fields fields'
  | _, _ => false
termination_by structural x => x

def sameKeys : List Value → List Value → Bool
  | [], [] => true
  | x :: xs, y :: ys => x.sameKey y && sameKeys xs ys
  | _, _ => false
termination_by structural x => x

def sameFieldKeys : List (String × Value) → List Value → Bool
  | [], [] => true
  | (_, x) :: xs, y :: ys => x.sameKey y && sameFieldKeys xs ys
  | _, _ => false
termination_by structural x => x

def keysWithin : List Value → List Value → Bool
  | [], _ => true
  | x :: xs, ys => ys.any (fun y => x.sameKey y) && keysWithin xs ys
termination_by structural x => x

def samePatternKeys : List Pattern → List Pattern → Bool
  | [], [] => true
  | p :: ps, q :: qs => p.sameKey q && samePatternKeys ps qs
  | _, _ => false
termination_by structural x => x

def sameMatcherKeys : List (String × Pattern) → List (String × Pattern) → Bool
  | [], [] => true
  | (a, p) :: ps, (b, q) :: qs => a = b && p.sameKey q && sameMatcherKeys ps qs
  | _, _ => false
termination_by structural x => x

end

/-! ## Containers by key -/

/-- Puts an entry into a mapping; a key that is already there keeps its place and its own form. -/
def putEntry : List (Value × Value) → Value × Value → List (Value × Value)
  | [], entry => [entry]
  | (key, old) :: rest, entry =>
      if key.sameKey entry.1 then (key, entry.2) :: rest
      else (key, old) :: putEntry rest entry

def Value.dictOf (readOnly : Bool) (entries : List (Value × Value)) : Value :=
  .dict readOnly (entries.foldl putEntry [])

/-- A set of the items, without those that equal an earlier one. -/
def Value.setOf (frozen : Bool) (items : List Value) : Value :=
  .set frozen (items.foldl
    (fun kept item => if kept.any fun other => other.sameKey item then kept else kept ++ [item])
    [])

/-! ## Values that ask objects -/

namespace Value

def isObject : Value → Bool
  | object _ _ _ _ _ => true
  | refusing _ value => value.isObject
  | _ => false

/-- An object with a dump belongs to a class below that of plain objects. -/
def isModel : Value → Bool
  | object _ _ _ _ .absent => false
  | object _ _ _ _ _ => true
  | refusing _ value => value.isModel
  | _ => false

/-- The answer of an object's own equality, if it has one. -/
def ownEquality? : Value → Option (Except Fault Bool)
  | object _ _ .raises _ _ => some (.error .comparisonRefused)
  | object _ _ (.gives v) _ _ => some v.truth
  | refusing _ value => value.ownEquality?
  | _ => none

/-- Equality where an operand is an object: the left is asked first, except that a model on the
right is asked before a plain object on the left. -/
def objectEqual (left right : Value) : Except Fault Bool :=
  let asked :=
    if left.isObject && !left.isModel && right.isModel then [right, left] else [left, right]
  (asked.findSome? ownEquality?).getD (.ok false)

/-- What keeps two records of one class from being compared.  All fields of the left one are read
first. -/
def readingFault? (left right : Value) : Option Fault :=
  match left.bare, right.bare with
  | data cls fields missing, data cls' fields' missing' =>
      if cls = cls' && fields.map (·.1) ++ missing = fields'.map (·.1) ++ missing' then
        left.recordFault?.or right.recordFault?
      else none
  | _, _ => none

end Value

/-- The conjunction of two tests, of which the second is made only if the first holds. -/
def andThen (first : Except Fault Bool) (second : Unit → Except Fault Bool) : Except Fault Bool :=
  match first with
  | .ok true => second ()
  | other => other

/-- The outcome of a test that need not be made if two values are one. -/
def unlessOne (one : Bool) (test : Except Fault Bool) : Except Fault Bool :=
  if one then .ok true else test

/-- The outcome of a test before which values are read. -/
def unlessRefused (fault : Option Fault) (test : Except Fault Bool) : Except Fault Bool :=
  match fault with
  | some fault => .error fault
  | none => test

def allHold {α : Type} (test : α → Except Fault Bool) : List α → Except Fault Bool
  | [] => .ok true
  | x :: xs => andThen (test x) fun _ => allHold test xs

def Scalar.compare (s : Scalar) (b : Value) : Except Fault Bool :=
  match b.unwrapped with
  | .scalar t =>
      match s.equal? t with
      | some answer => .ok answer
      | none => .error .signalingComparison
  | b => (Value.scalar s).objectEqual b

mutual

/-- Compares two values; `flipped` says that the first argument is the right operand.  The
entries of the left mapping are looked up in the right one, and each value found there is the
left operand of their comparison; a view on the right changes the roles. -/
def Value.compare (flipped : Bool) : Value → Value → Except Fault Bool
  | .object text attributes equality untestable dump, b =>
      let a := .object text attributes equality untestable dump
      if flipped then b.objectEqual a else a.objectEqual b
  | .scalar s, b => s.compare b
  | .member mixin cls name v, b =>
      match mixin.content? with
      | some s => s.compare b
      | none =>
          if b.isMember cls name then .ok true else (Value.member mixin cls name v).objectEqual b
  | .list xs, b =>
      match b.bare with
      | .list ys => if xs.length = ys.length then compareItems flipped xs ys else .ok false
      | b => (Value.list xs).objectEqual b
  | .tuple xs, b =>
      match b.tupleItems? with
      | some ys => compareItems flipped xs ys
      | none => (Value.tuple xs).objectEqual b
  | .named cls fields, b =>
      match b.tupleItems? with
      | some ys => compareFields flipped fields ys
      | none => (Value.named cls fields).objectEqual b
  | .set frozen xs, b =>
      match b.bare with
      | .set _ ys => .ok (xs.length = ys.length && xs.all fun x => ys.any fun y => x.sameKey y)
      | b => (Value.set frozen xs).objectEqual b
  | .dict readOnly xs, b =>
      match b.bare with
      | .dict readOnly' ys =>
          if xs.length ≠ ys.length then .ok false
          else if (if flipped then !readOnly else readOnly') then
            allHold (fun entry => compareFound false xs entry) ys
          else compareEntries true xs ys
      | b => (Value.dict readOnly xs).objectEqual b
  | .data cls fields missing, b =>
      match b.bare with
      | .data cls' fields' missing' =>
          let a := Value.data cls fields missing
          if cls = cls' && fields.map (·.1) ++ missing = fields'.map (·.1) ++ missing' then
            unlessRefused (if flipped then b.readingFault? a else a.readingFault? b)
              (compareFields flipped fields (fields'.map (·.2)))
          else .ok false
      | b => (Value.data cls fields missing).objectEqual b
  | .lookup s v, b =>
      match b.bare with
      | .lookup t w =>
          if s.name = t.name then unlessOne (v.isOneMember w) (v.compare flipped w) else .ok false
      | b => (Value.lookup s v).objectEqual b
  | .pattern p, b =>
      match b.bare with
      | .pattern q => p.compare flipped q
      | b => (Value.pattern p).objectEqual b
  | .known cls parts, b => (Value.known cls parts).objectEqual b
  | .refusing refusals v, b =>
      let a := Value.refusing refusals v
      unlessRefused (if flipped then b.readingFault? a else a.readingFault? b) (v.compare flipped b)
termination_by structural x => x

def Pattern.compare (flipped : Bool) : Pattern → Pattern → Except Fault Bool
  | .any, .any => .ok true
  | .exact v, .exact w => unlessOne (v.isOneMember w) (v.compare flipped w)
  | .shape ps, .shape qs => comparePatterns flipped ps qs
  | .record cls fields, .record cls' fields' =>
      if cls = cls' then compareMatchers flipped fields fields' else .ok false
  | _, _ => .ok false
termination_by structural x => x

def compareItems (flipped : Bool) : List Value → List Value → Except Fault Bool
  | x :: xs, y :: ys =>
      andThen (unlessOne (x.isOneMember y) (x.compare flipped y))
        fun _ => compareItems flipped xs ys
  | xs, ys => .ok (xs.isEmpty && ys.isEmpty)
termination_by structural x => x

def compareFields (flipped : Bool) : List (String × Value) → List Value → Except Fault Bool
  | (_, x) :: xs, y :: ys =>
      andThen (unlessOne (x.isOneMember y) (x.compare flipped y))
        fun _ => compareFields flipped xs ys
  | xs, ys => .ok (xs.isEmpty && ys.isEmpty)
termination_by structural x => x

/-- Looks every entry of the first mapping up in the second. -/
def compareEntries (flipped : Bool) :
    List (Value × Value) → List (Value × Value) → Except Fault Bool
  | [], _ => .ok true
  | (key, x) :: xs, ys =>
      match ys.find? fun entry => key.sameKey entry.1 with
      | some (_, y) =>
          andThen (unlessOne (x.isOneMember y) (x.compare flipped y))
            fun _ => compareEntries flipped xs ys
      | none => .ok false
termination_by structural x => x

/-- Looks one entry of the second mapping up in the first. -/
def compareFound (flipped : Bool) : List (Value × Value) → Value × Value → Except Fault Bool
  | [], _ => .ok false
  | (key, x) :: xs, (key', y) =>
      if key.sameKey key' then unlessOne (x.isOneMember y) (x.compare flipped y)
      else compareFound flipped xs (key', y)
termination_by structural x => x

def comparePatterns (flipped : Bool) : List Pattern → List Pattern → Except Fault Bool
  | p :: ps, q :: qs => andThen (p.compare flipped q) fun _ => comparePatterns flipped ps qs
  | ps, qs => .ok (ps.isEmpty && qs.isEmpty)
termination_by structural x => x

def compareMatchers (flipped : Bool) :
    List (String × Pattern) → List (String × Pattern) → Except Fault Bool
  | (a, p) :: ps, (b, q) :: qs =>
      if a = b then andThen (p.compare flipped q) fun _ => compareMatchers flipped ps qs
      else .ok false
  | ps, qs => .ok (ps.isEmpty && qs.isEmpty)
termination_by structural x => x

end

def Value.equal (a b : Value) : Except Fault Bool := a.compare false b

end CachePolicy
