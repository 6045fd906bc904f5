import CachePolicy.Value.Description
import CachePolicy.Value.Routine.Container
import CachePolicy.Value.Routine.Enumeration
import CachePolicy.Value.Routine.Moment
import CachePolicy.Value.Routine.Number
import CachePolicy.Value.Routine.Record
import CachePolicy.Value.Routine.Reference
import CachePolicy.Value.Routine.Text

/-!
# Routines by class

Which routines a class declares itself.  Those of the classes above it are not repeated,
but an enumeration keeps some routines of other classes under names of its own.
-/

namespace CachePolicy.Class

open Routine

def builtInRoutines : String → List Routine
  | "builtin_function_or_method" => ofMethod
  | "method-wrapper" => ofOperator
  | "method" => ofBoundFunction
  | "function" => ofFunction
  | "code" => ofCode
  | "wrapper_descriptor" => ofHeldOperator
  | "method_descriptor" => ofHeldMethod
  | "classmethod_descriptor" => ofHeldOfClass
  | "getset_descriptor" => ofReader
  | "member_descriptor" => ofStoredPart
  | "property" => ofComputedPart
  | "coroutine" => ofPending
  | _ => []

def routines (c : Class) : List Routine :=
  match c with
  | object => ofObject
  | null => ofNull
  | flag => ofFlag
  | int => ofInt
  | float => ofFloat
  | decimal => ofDecimal
  | text => ofText
  | bytes => ofOctets ++ ofBytes
  | buffer => ofOctets ++ ofBuffer
  | tuple => ofTuple
  | list => ofList
  | set => ofSets ++ ofSet
  | frozenSet => ofSets ++ ofFrozenSet
  | dict => ofDict
  | view => ofView
  | mapping => ofMapping
  | other "collections.abc" "Collection" => ofCollection
  | other "collections.abc" "Sized" => ofSized
  | other "collections.abc" "Iterable" => ofIterable
  | other "collections.abc" "Container" => ofContainer
  | date => ofDate
  | dateTime => ofDateTime
  | time => ofTime
  | duration => ofDuration
  | zone => ofZone
  | other "datetime" "tzinfo" => ofAnyZone
  | uuid => ofUuid
  | enum => ofMember
  | other "enum" "StrEnum" => ofTextMember
  | lock => ofLock
  | named name fields => ofNamed name fields
  | data _ _ => initializer c.fieldNotes :: recordShowing :: ofRecord
  | lookup =>
      { initializer c.fieldNotes with optionals := 1 } :: recordShowing :: ofLookup ++ ofRecord
  | pattern => [matching]
  | wildcard => matching :: initializer [] :: showing :: ofRecord
  | exact => matching :: initializer c.fieldNotes :: recordShowing :: ofRecord
  | shape => matching :: ofShape :: recordShowing :: ofRecord
  | matcher => matching :: ofMatcher :: recordShowing :: ofRecord
  | marker => [showing]
  | opaqueObject => ofOpaqueObject
  | model => functions ["model_dump"]
  | other "pydantic.main" _ => ofModelRecord
  | kind => ofKind
  | abstractKind => ofAbstractKind
  | enumKind => ofEnumeration
  | modelKind => ofModelKind
  | builtIn name => builtInRoutines name
  | other "dataclasses" "Field" => ofField
  | other "dataclasses" "_DataclassParams" => ofRecordOptions
  | other "dataclasses" "_FIELD_BASE" => ofFieldKind
  | other "_collections" "_tuplegetter" => ofTuplePart
  | other "types" "GenericAlias" => ofAppliedClass
  | account | handle | members _ _ | other _ _ => []

/-! ## Routines of other classes -/

/-- A routine that a class declares under a name, with the class that it comes from. -/
structure Declaration where
  name : String
  owner : Class
  routine : Routine

/-- A routine of a class as it is kept under a name. -/
def lent (owner : Class) (routineName name : String) : List Declaration :=
  (owner.routines.find? (·.name = routineName)).toList.map (⟨name, owner, ·⟩)

def memberCreator (name : String) (owner : Class) (description : String) : Declaration :=
  ⟨name, owner, .written "__new__" description⟩

def textMember : Class := other "enum" "StrEnum"

/-- The class of the values of a kind of members. -/
def memberValue : MemberKind → Class
  | .plain => object
  | .int => int
  | .text => text
  | .float => float

def valueCreator (kind : MemberKind) : Declaration :=
  match kind with
  | .text => memberCreator "_new_member_" textMember "values must already be of type `str`"
  | k => ⟨"_new_member_", memberValue k, creator⟩

def memberRoutines (kind : MemberKind) : List Declaration :=
  memberCreator "__new__" enum "" :: valueCreator kind ::
    match kind with
    | .plain => lent enum "_generate_next_value_" "_generate_next_value_"
    | .int => lent enum "_generate_next_value_" "_generate_next_value_" ++
        lent int "__format__" "__format__" ++ lent int "__repr__" "_value_repr_"
    | .text => lent textMember "_generate_next_value_" "_generate_next_value_" ++
        lent text "__format__" "__format__" ++ lent text "__str__" "__str__" ++
        lent text "__repr__" "_value_repr_"
    | .float => lent enum "_generate_next_value_" "_generate_next_value_" ++
        lent float "__repr__" "_value_repr_" ++ lent enum "__repr__" "__repr__" ++
        lent enum "__str__" "__str__" ++ lent enum "__format__" "__format__" ++
        lent enum "__reduce_ex__" "__reduce_ex__"

def borrowed : Class → List Declaration
  | members k _ => memberRoutines k
  | enum => [memberCreator "_new_member_" enum ""]
  | other "enum" "IntEnum" =>
      memberRoutines .int ++ lent enum "__repr__" "__repr__" ++ lent int "__repr__" "__str__"
  | other "enum" "StrEnum" =>
      memberRoutines .text ++ lent enum "__repr__" "__repr__" ++
        [memberCreator "__new_member__" textMember "values must already be of type `str`"]
  | other "enum" "ReprEnum" => memberRoutines .plain
  | _ => []

def declarations (c : Class) : List Declaration :=
  c.borrowed ++ c.routines.map fun r => ⟨r.name, c, r⟩

end CachePolicy.Class
