import CachePolicy.Value.Class

/-!
# Layout of values

How many octets a value of a class takes, where its attributes and the references to it are
kept, and the marks of its class.
-/

namespace CachePolicy.Class

/-- Sizes and offsets are in octets; an offset of zero says that there is no such place, and a
negative one counts from the end. -/
structure Layout where
  size : Nat
  itemSize : Nat
  attributes : Int
  references : Nat
  marks : Nat
  deriving DecidableEq, Repr

def openLayout : Layout := ⟨24, 0, -48, 16, 546320⟩

def closedLayout : Layout := ⟨16, 0, 0, 0, 546304⟩

/-- The layout of the values of a class, as far as it is the same everywhere. -/
def layout? : Class → Option Layout
  | object | other "datetime" "tzinfo" => some ⟨16, 0, 0, 0, 529664⟩
  | null => some ⟨16, 0, 0, 0, 528640⟩
  | flag => some ⟨32, 4, 0, 0, 21500160⟩
  | int => some ⟨24, 4, 0, 0, 21501184⟩
  | float => some ⟨24, 0, 0, 0, 4723968⟩
  | text => some ⟨80, 0, 0, 0, 273159424⟩
  | bytes => some ⟨33, 1, 0, 0, 138941696⟩
  | buffer => some ⟨56, 0, 0, 0, 4723968⟩
  | tuple => some ⟨24, 8, 0, 0, 71849248⟩
  | named _ _ => some ⟨24, 8, 0, 0, 71849504⟩
  | list => some ⟨40, 0, 0, 0, 38294816⟩
  | set | frozenSet => some ⟨200, 0, 0, 192, 4740352⟩
  | dict => some ⟨48, 0, 0, 0, 541611328⟩
  | view => some ⟨24, 0, 0, 0, 545088⟩
  | mapping => some ⟨16, 0, 0, 0, 1594944⟩
  | other "collections.abc" _ => some ⟨16, 0, 0, 0, 1594880⟩
  | date => some ⟨32, 0, 0, 0, 529664⟩
  | dateTime => some ⟨48, 0, 0, 0, 529664⟩
  | time | duration => some ⟨40, 0, 0, 0, 529664⟩
  | zone => some ⟨32, 0, 0, 0, 528640⟩
  | decimal => some ⟨104, 0, 0, 0, 529664⟩
  | uuid => some ⟨40, 0, 0, 32, 546304⟩
  | members .int _ | other "enum" "IntEnum" => some ⟨32, 4, -8, 0, 21517824⟩
  | members .text _ | other "enum" "StrEnum" => some ⟨88, 0, -112, 80, 273176080⟩
  | members .float _ => some ⟨32, 0, -56, 24, 4740624⟩
  | enum | members .plain _ | other "enum" "ReprEnum" => some openLayout
  | opaqueObject | model | data _ _ | lookup | wildcard | exact | shape | matcher =>
      some openLayout
  | pattern | marker => some closedLayout
  | account | handle => some ⟨48, 0, -64, 40, 546320⟩
  | other "pydantic.main" "BaseModel" => some ⟨40, 0, -64, 0, 546320⟩
  | lock => some ⟨40, 0, 0, 24, 545664⟩
  | kind => some ⟨904, 40, 264, 368, 2148031744⟩
  | abstractKind | enumKind | modelKind => some ⟨904, 40, 264, 368, 2148029952⟩
  | builtIn _ | other _ _ => none

def Layout.part? (l : Layout) (name : String) : Option Int :=
  match name with
  | "__basicsize__" => some l.size
  | "__itemsize__" => some l.itemSize
  | "__dictoffset__" => some l.attributes
  | "__weakrefoffset__" => some l.references
  | "__flags__" => some l.marks
  | _ => none

end CachePolicy.Class
