import CachePolicy.Failure
import CachePolicy.Table
import CachePolicy.Value.Scalar

/-!
# Values and patterns

The values that operations take and return, and the patterns that results are
matched with.  A pattern is itself a value, and an exact pattern holds one, so the two
types are mutual.  Of a `known` value, which is only read from another one, no more is
known than its class and some of its parts.  A `refusing` value is one whose class lies below
that of the value in it and which is like this one except that some reads of it fail; null, a
flag and what this library itself makes, such as a lookup or a pattern, refuse no read.
-/

namespace CachePolicy

inductive LookupStatus where
  | hit
  | miss
  | unavailable
  deriving DecidableEq, Repr

def LookupStatus.name : LookupStatus → String
  | hit => "hit"
  | miss => "miss"
  | unavailable => "unavailable"

/-- The status a lookup carries: a proper status, or a text that was never turned into one. -/
inductive StatusMark where
  | known (status : LookupStatus)
  | spelled (name : String)
  deriving DecidableEq, Repr

def StatusMark.name : StatusMark → String
  | known status => status.name
  | spelled name => name

/-- The behaviour of an optional hook of an object: there is none, or it fails, or it gives a
result. -/
inductive Hook (α : Type) where
  | absent
  | raises
  | gives (result : α)
  deriving Repr

/-- What a member of an enumeration is besides: nothing, or also a scalar, its content.  The
content need not be the value of the member. -/
inductive Mixin where
  | plain
  | int (n : Int)
  | text (s : String)
  | float (x : Binary64)
  deriving DecidableEq, Repr

namespace Mixin

def kind : Mixin → MemberKind
  | plain => .plain
  | int _ => .int
  | text _ => .text
  | float _ => .float

def content? : Mixin → Option Scalar
  | plain => none
  | int n => some (.int n)
  | text s => some (.text s)
  | float x => some (.float x)

end Mixin

/-- What is read from a value: an attribute, or an item of a mapping. -/
inductive Access where
  | attribute (name : String)
  | item (name : String)
  deriving DecidableEq, Repr

/-- The failure of a read.  To fail as if nothing had that name is no failure of a read, and an
interrupt does not come from one. -/
structure ReadFailure where
  failure : Failure
  ordinary : failure.isInterrupt = false

abbrev Refusals := Table Access ReadFailure

mutual

inductive Value where
  | scalar (s : Scalar)
  | list (items : List Value)
  | tuple (items : List Value)
  | set (frozen : Bool) (items : List Value)
  | dict (readOnly : Bool) (entries : List (Value × Value))
  | member (mixin : Mixin) (cls name : String) (value : Value)
  | data (cls : String) (fields : List (String × Value)) (missing : List String)
  | named (cls : String) (fields : List (String × Value))
  | object (text : Option String) (attributes : List (String × Value)) (equality : Hook Value)
      (untestable : Bool) (dump : Hook Value)
  | lookup (status : StatusMark) (value : Value)
  | pattern (p : Pattern)
  | known (cls : Class) (parts : List (String × Value))
  | refusing (refusals : Refusals) (value : Value)

inductive Pattern where
  | any
  | exact (value : Value)
  | shape (elements : List Pattern)
  | record (cls : Class) (fields : List (String × Pattern))
  | abstract

end

namespace Value

@[match_pattern] abbrev null : Value := .scalar .null
@[match_pattern] abbrev flag (b : Bool) : Value := .scalar (.flag b)
@[match_pattern] abbrev int (n : Int) : Value := .scalar (.int n)
@[match_pattern] abbrev text (s : String) : Value := .scalar (.text s)
@[match_pattern] abbrev unset : Value := .scalar .unset

instance : Inhabited Value := ⟨null⟩

/-- A value apart from the reads that it refuses. -/
def bare : Value → Value
  | refusing _ value => value.bare
  | v => v

/-- Induction on the refusals around a value, with one case for each kind of value inside. -/
@[elab_as_elim]
theorem inductRefusing {motive : Value → Prop} (scalar : ∀ s, motive (.scalar s))
    (list : ∀ items, motive (.list items)) (tuple : ∀ items, motive (.tuple items))
    (set : ∀ frozen items, motive (.set frozen items))
    (dict : ∀ readOnly entries, motive (.dict readOnly entries))
    (member : ∀ mixin cls name value, motive (.member mixin cls name value))
    (data : ∀ cls fields missing, motive (.data cls fields missing))
    (named : ∀ cls fields, motive (.named cls fields))
    (object : ∀ text attributes equality untestable dump,
      motive (.object text attributes equality untestable dump))
    (lookup : ∀ status value, motive (.lookup status value)) (pattern : ∀ p, motive (.pattern p))
    (known : ∀ cls parts, motive (.known cls parts))
    (refusing : ∀ refusals value, motive value → motive (.refusing refusals value)) (v : Value) :
    motive v := by
  induction v using Value.bare.induct with
  | case1 refusals value ih => exact refusing refusals value ih
  | case2 v bare =>
      cases v with
      | scalar s => exact scalar s
      | list items => exact list items
      | tuple items => exact tuple items
      | set frozen items => exact set frozen items
      | dict readOnly entries => exact dict readOnly entries
      | member mixin cls name value => exact member mixin cls name value
      | data cls fields missing => exact data cls fields missing
      | named cls fields => exact named cls fields
      | object text attributes equality untestable dump =>
          exact object text attributes equality untestable dump
      | lookup status value => exact lookup status value
      | pattern p => exact pattern p
      | known cls parts => exact known cls parts
      | refusing refusals value => exact absurd rfl (bare refusals value)

/-- The content behind a member of an enumeration whose members are also scalars. -/
def unwrapped : Value → Value
  | member mixin cls name value =>
      match mixin.content? with
      | some s => scalar s
      | none => member mixin cls name value
  | refusing _ value => value.unwrapped
  | v => v

/-- The text that a value is, if it is one; a member of a text enumeration is its own text. -/
def text? : Value → Option String
  | text s => some s
  | member (.text s) _ _ _ => some s
  | refusing _ value => value.text?
  | _ => none

def isNull : Value → Bool
  | null => true
  | _ => false

def isFlag : Value → Bool
  | flag _ => true
  | _ => false

/-- How a read of a value fails, if it does. -/
def refused? : Value → Access → Option ReadFailure
  | refusing refusals value, access => (refusals.get? access).or (value.refused? access)
  | _, _ => none

end Value

end CachePolicy
