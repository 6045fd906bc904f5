import CachePolicy.Datum.Printer
import CachePolicy.Table
import CachePolicy.Text.Utf8

/-!
# Key fragments

The text of an argument inside a cache key.  A value is first reduced to plain data:
sets become sorted lists, records become maps, and what has no plain form becomes its
text.  Texts then stand for themselves, null is empty, and all else is printed
compactly.  Equal data give equal fragments, whatever the order it was built in.  A read
that a value refuses on the way leaves it without a fragment.
-/

namespace CachePolicy

def dumpName : String := "model_dump"

namespace Scalar

/-- The attribute of a scalar that its plain form is made with, if one is read. -/
def reader? : Scalar → Option String
  | date _ | dateTime _ | time _ => some "isoformat"
  | account _ _ | handle _ | lock | kind _ | unset | duration _ | zone _ => some dumpName
  | _ => none

/-- The text of a scalar that has neither a number nor a flag for its plain form. -/
def plainText : Scalar → String
  | decimal x => x.text
  | uuid digits => digits
  | text s => s
  | bytes octets | buffer octets => lenientText octets
  | date d => d.isoText
  | dateTime d => d.isoText
  | time t => t.isoText
  | s => (Value.scalar s).displayOrPlace

def normal : Scalar → Datum
  | null => .null
  | flag b => .flag b
  | int n => .int n
  | float x => .float x
  | account id tags => .map [("id", .int id), ("tags", .list (tags.map .text))]
  | s => .text s.plainText

end Scalar

def sortedItems (items : List Datum) : Except Fault (List Datum) := do
  let keyed ← items.mapM fun d => do return (← d.chars Datum.sorting, d)
  return (keyed.mergeSort fun a b => Datum.charsLe a.1 b.1).map (·.2)

/-- The plain form of a member as a scalar.  An argument or a key that is a number as well is asked
for its value all the same, and `outer` tells those from what other values hold. -/
def Mixin.normal? (mixin : Mixin) (outer : Bool) : Option Datum :=
  match mixin, outer with
  | text s, _ => some (.text s)
  | int n, false => some (.int n)
  | float x, false => some (.float x)
  | _, _ => none

namespace Value

/-- The fragment of a value whose plain form is known.  A member of an enumeration has the
fragment of its value, unless it is a text. -/
def fragmentOf : Value → Datum → Except Fault String
  | null, _ => .ok ""
  | scalar (.float x), _ => .ok x.text
  | member (.text s) _ _ _, _ => .ok s
  | member _ _ _ value, d | refusing _ value, d => value.fragmentOf d
  | _, .text s => .ok s
  | _, d => d.print Datum.compact

end Value

/-! ## Values that dump themselves -/

/-- What a class makes of the request for a dump, which names its form: a mapping, or a record
with a field of that name and no other. -/
def Class.dumped? (c : Class) : Option Datum :=
  let form : Datum := .text "json"
  match c with
  | .dict | .data _ ["mode"] => some (.map [("mode", form)])
  | .named _ ["mode"] => some (.list [form])
  | _ => none

/-- What a value makes of the request for a dump.  Only classes can be asked, and some refuse. -/
def Value.dumped? : Value → Option (Option Datum)
  | .scalar (.kind c) => some c.dumped?
  | .refusing _ value => value.dumped?
  | _ => none

mutual

def Value.normal :
    Value → (outer : Bool := false) → (refusals : Refusals := []) → Except Fault Datum
  | .scalar s, _, refusals => do
      if let some name := s.reader? then refusals.allow (.attribute name)
      return s.normal
  | .list items, _, refusals | .tuple items, _, refusals => do
      refusals.allow (.attribute dumpName)
      return .list (← normalItems items)
  | .set _ items, _, refusals => do
      refusals.allow (.attribute dumpName)
      return .list (← sortedItems (← normalItems items))
  | .dict _ entries, _, refusals => do
      refusals.allow (.attribute dumpName)
      refusals.allow (.attribute "items")
      return Datum.ofMembers (← normalEntries entries)
  | .member mixin _ _ value, outer, refusals =>
      match mixin.normal? outer with
      | some d => .ok d
      | none => do
          refusals.allow (.attribute "value")
          value.normal outer
  | .data _ fields missing, _, refusals => do
      let members ← normalFields fields refusals
      missing.forM fun name => refusals.allow (.attribute name)
      return .map (members ++ missing.map fun name => (name, .null))
  | .named cls fields, _, refusals => do
      refusals.allow (.attribute dumpName)
      match (Table.get? fields dumpName).bind Value.dumped? with
      | some dumped => return dumped.getD (.text (Value.named cls fields).displayOrPlace)
      | none => return .list ((← normalFields fields).map (·.2))
  | .object words attributes equality untestable dump, _, refusals => do
      let own := (Value.object words attributes equality untestable dump).displayOrPlace
      refusals.allow (.attribute dumpName)
      match Table.get? attributes dumpName with
      | some maker => return maker.dumped?.join.getD (.text own)
      | none => return (← normalDump dump).getD (.text own)
  | .lookup status value, _, _ => do
      return .map [("status", .text status.name), ("value", ← value.normal)]
  | .pattern p, _, _ => p.normal
  | .known cls _, _, refusals => do
      refusals.allow (.attribute dumpName)
      return .text (placedText cls.qualifiedName)
  | .refusing more value, outer, refusals => value.normal outer (refusals ++ more)

def Pattern.normal : Pattern → Except Fault Datum
  | .any => .ok (.map [])
  | .exact value => do return .map [("value", ← value.normal)]
  | .shape elements => do return .map [("elements", .list (← normalPatterns elements))]
  | .record cls fields => do
      return .map [("cls", .text cls.shown), ("fields", .list (← normalMatchers fields))]
  | .abstract => .ok (.text (placedText Class.pattern.qualifiedName))

/-- The plain form of the dump of an object, if it gives one. -/
def normalDump : Hook Value → Except Fault (Option Datum)
  | .gives dumped => do return some (← dumped.normal)
  | .absent | .raises => .ok none

def normalItems : List Value → Except Fault (List Datum)
  | [] => .ok []
  | v :: rest => do return (← v.normal) :: (← normalItems rest)

/-- The members of a mapping are named by the fragments of its keys. -/
def normalEntries : List (Value × Value) → Except Fault (List (String × Datum))
  | [] => .ok []
  | (k, v) :: rest => do
      let name ← k.fragmentOf (← k.normal true)
      return (name, ← v.normal) :: (← normalEntries rest)

/-- Each field is read just before it is reduced. -/
def normalFields :
    List (String × Value) → (refusals : Refusals := []) → Except Fault (List (String × Datum))
  | [], _ => .ok []
  | (name, v) :: rest, refusals => do
      refusals.allow (.attribute name)
      return (name, ← v.normal) :: (← normalFields rest refusals)

def normalPatterns : List Pattern → Except Fault (List Datum)
  | [] => .ok []
  | p :: rest => do return (← p.normal) :: (← normalPatterns rest)

def normalMatchers : List (String × Pattern) → Except Fault (List Datum)
  | [] => .ok []
  | (name, p) :: rest => do
      return .list [.text name, ← p.normal] :: (← normalMatchers rest)

end

def Value.fragment (v : Value) : Except Fault String := do
  v.fragmentOf (← v.normal true)

end CachePolicy
