/-!
# Classes of values

Every value has a class, and patterns ask whether it belongs to one.  Besides the
classes of the built-in values there are record classes, told apart by their name and
fields: `data` classes with named fields, and `named` tuples.  The later constructors are
classes that only attributes lead to; `builtIn` and `other` classes are told apart by name.
-/

namespace CachePolicy

/-- What the members of an enumeration are besides: nothing, or also scalars of a kind. -/
inductive MemberKind where
  | plain
  | int
  | text
  | float
  deriving DecidableEq, Repr

inductive Class where
  | object
  | null
  | flag
  | int
  | float
  | text
  | bytes
  | tuple
  | list
  | set
  | frozenSet
  | dict
  | mapping
  | date
  | dateTime
  | time
  | decimal
  | uuid
  | enum
  | opaqueObject
  | model
  | account
  | data (name : String) (fields : List String)
  | named (name : String) (fields : List String)
  -- Classes of values that patterns cannot name
  | members (kind : MemberKind) (name : String)
  | buffer
  | view
  | duration
  | zone
  | handle
  | lock
  | marker
  | lookup
  | pattern
  | wildcard
  | exact
  | shape
  | matcher
  -- Classes of classes
  | kind
  | abstractKind
  | enumKind
  | modelKind
  | builtIn (name : String)
  | other (module name : String)
  deriving DecidableEq, Repr

namespace Class

def name : Class → String
  | object => "object"
  | null => "NoneType"
  | flag => "bool"
  | int => "int"
  | float => "float"
  | text => "str"
  | bytes => "bytes"
  | tuple => "tuple"
  | list => "list"
  | set => "set"
  | frozenSet => "frozenset"
  | dict => "dict"
  | mapping => "Mapping"
  | date => "date"
  | dateTime => "datetime"
  | time => "time"
  | decimal => "Decimal"
  | uuid => "UUID"
  | enum => "Enum"
  | opaqueObject => "Obj"
  | model => "Model"
  | account => "Account"
  | buffer => "bytearray"
  | view => "mappingproxy"
  | duration => "timedelta"
  | zone => "timezone"
  | handle => "Handle"
  | lock => "lock"
  | marker => "_Unset"
  | lookup => "Lookup"
  | pattern => "Pattern"
  | wildcard => "Wildcard"
  | exact => "Exact"
  | shape => "Shape"
  | matcher => "Record"
  | kind => "type"
  | abstractKind => "ABCMeta"
  | enumKind => "EnumType"
  | modelKind => "ModelMetaclass"
  | data name _ | named name _ | members _ name | builtIn name | other _ name => name

/-- The module that declares a class, or none if it is built in. -/
def module? : Class → Option String
  | mapping => some "collections.abc"
  | date | dateTime | time | duration | zone => some "datetime"
  | decimal => some "decimal"
  | uuid => some "uuid"
  | enum | enumKind => some "enum"
  | members .text "LookupStatus" => some "cache_decorator.backend"
  | members .plain "SafeUUID" => some "uuid"
  | opaqueObject | model | account | handle | data _ _ | named _ _ | members _ _ =>
      some "oracle_types"
  | lock => some "_thread"
  | marker | pattern | wildcard | exact | shape | matcher => some "cache_decorator.patterns"
  | lookup => some "cache_decorator.backend"
  | abstractKind => some "abc"
  | modelKind => some "pydantic._internal._model_construction"
  | other module _ => some module
  | _ => none

def qualifiedName (c : Class) : String :=
  match c.module? with
  | some module => module ++ "." ++ c.name
  | none => c.name

def isEnumeration : Class → Bool
  | enum | members _ _ => true
  | _ => false

/-- Values of these classes cannot be put into a set. -/
def isUnhashable : Class → Bool
  | list | set | dict | view | mapping | buffer | account | handle => true
  | _ => false

def shown (c : Class) : String :=
  if c.isEnumeration then "<enum '" ++ c.name ++ "'>" else "<class '" ++ c.qualifiedName ++ "'>"

/-- The name in complaints about the class of a value; only some modules are named. -/
def complaintName (c : Class) : String :=
  match c with
  | date | dateTime | time | duration | zone | decimal | lock => c.qualifiedName
  | c => c.name

def above : Class → Class
  | enum | members _ _ | other "enum" _ => enumKind
  | mapping | other "collections.abc" _ => abstractKind
  | account | handle | other "pydantic.main" _ => modelKind
  | _ => kind

/-- The classes above that of mappings. -/
def collectionLineage : List Class :=
  [other "collections.abc" "Collection", other "collections.abc" "Sized",
   other "collections.abc" "Iterable", other "collections.abc" "Container", object]

def lineage (c : Class) : List Class :=
  match c with
  | object => [object]
  | flag => [flag, int, object]
  | dateTime => [dateTime, date, object]
  | model => [model, opaqueObject, object]
  | named _ _ => [c, tuple, object]
  | members .plain _ => [c, enum, object]
  | members .int _ => [c, other "enum" "IntEnum", int, other "enum" "ReprEnum", enum, object]
  | members .text _ => [c, other "enum" "StrEnum", text, other "enum" "ReprEnum", enum, object]
  | other "enum" "IntEnum" => [c, int, other "enum" "ReprEnum", enum, object]
  | other "enum" "StrEnum" => [c, text, other "enum" "ReprEnum", enum, object]
  | other "enum" "ReprEnum" => [c, enum, object]
  | members .float _ => [c, float, enum, object]
  | mapping => mapping :: collectionLineage
  | other "collections.abc" "Collection" => collectionLineage
  | account | handle => [c, other "pydantic.main" "BaseModel", object]
  | zone => [zone, other "datetime" "tzinfo", object]
  | wildcard | exact | shape | matcher => [c, pattern, object]
  | abstractKind | enumKind => [c, kind, object]
  | modelKind => [modelKind, abstractKind, kind, object]
  | c => [c, object]

/-- Whether values of one class belong to another.  The class of mappings takes in classes that
do not name it. -/
def isBelow (c other : Class) : Bool :=
  c.lineage.contains other || (other = mapping && (c = dict || c = view))

end Class

end CachePolicy
