import CachePolicy.Value.Basic

/-!
# Membership of classes

The class of a value, and the values that belong to a class.  A flag is an integer, a
date with a time is a date, and a member of an enumeration also belongs to the class of
its content if it has one.
-/

namespace CachePolicy

def Scalar.ownClass : Scalar → Class
  | null => .null
  | flag _ => .flag
  | int _ => .int
  | float _ => .float
  | decimal _ => .decimal
  | uuid _ => .uuid
  | text _ => .text
  | bytes _ => .bytes
  | buffer _ => .buffer
  | date _ => .date
  | dateTime _ => .dateTime
  | time _ => .time
  | account _ _ => .account
  | handle _ => .handle
  | lock => .lock
  | kind c => c.above
  | unset => .marker
  | duration _ => .duration
  | zone _ => .zone

def Pattern.ownClass : Pattern → Class
  | any => .wildcard
  | exact _ => .exact
  | shape _ => .shape
  | record _ _ => .matcher
  | abstract => .pattern

namespace Value

/-- An object with a dump is a model. -/
def ownClass : Value → Class
  | scalar s => s.ownClass
  | list _ => .list
  | tuple _ => .tuple
  | set frozen _ => if frozen then .frozenSet else .set
  | dict readOnly _ => if readOnly then .view else .dict
  | member mixin cls _ _ => .members mixin.kind cls
  | data cls fields missing => .data cls (fields.map (·.1) ++ missing)
  | named cls fields => .named cls (fields.map (·.1))
  | object _ _ _ _ .absent => .opaqueObject
  | object _ _ _ _ _ => .model
  | lookup _ _ => .lookup
  | pattern p => p.ownClass
  | known cls _ => cls
  | refusing _ value => value.ownClass

def isA (v : Value) (c : Class) : Bool := v.ownClass.isBelow c

end Value

end CachePolicy
