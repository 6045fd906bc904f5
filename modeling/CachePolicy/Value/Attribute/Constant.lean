import CachePolicy.Table
import CachePolicy.Value.Attribute.Bound

/-!
# Constants of classes

What a class declares besides routines: where it comes from, what it says about itself, and
what it notes about its fields, its extremes or its members.
-/

namespace CachePolicy.Class

def notesModule : Class → Bool
  | date | dateTime | time | duration | zone | other "datetime" _ => false
  | _ => true

/-! ## Records -/

/-- A value that stands for none given. -/
def notGiven : Value := .unknown (other "dataclasses" "_MISSING_TYPE")

/-- What a class of records notes about a field. -/
def fieldNote (name type : String) (standard : Value) : Value :=
  .known (other "dataclasses" "Field")
    [("name", .text name), ("type", .text type), ("default", standard),
     ("default_factory", notGiven), ("repr", .flag true), ("hash", .null), ("init", .flag true),
     ("compare", .flag true), ("metadata", .dict true []), ("kw_only", .flag false),
     ("_field_type", .known (other "dataclasses" "_FIELD_BASE") [("name", .text "_FIELD")])]

/-- The value of a field that is not given.  A lookup holds nothing unless told otherwise. -/
def standardValue (c : Class) (field : String) : Value :=
  if c = lookup && field = "value" then .null else notGiven

/-- The options that a class of records is made with.  Shapes and record patterns are made by
routines of their own. -/
def recordOptions (c : Class) : Value :=
  .known (other "dataclasses" "_DataclassParams")
    [("init", .flag (c ≠ shape && c ≠ matcher)), ("repr", .flag true), ("eq", .flag true),
     ("order", .flag false), ("unsafe_hash", .flag false), ("frozen", .flag true)]

def recordConstants (c : Class) : List (String × Value) :=
  let annotations := .directory (c.fieldNotes.map fun note => (note.1, .text note.2))
  (if c = wildcard then [] else [("__annotations__", annotations)]) ++
  [("__match_args__", .tuple (Value.texts (c.fieldNotes.map (·.1)))),
   ("__dataclass_fields__", .directory (c.fieldNotes.map fun note =>
      (note.1, fieldNote note.1 note.2 (c.standardValue note.1)))),
   ("__dataclass_params__", c.recordOptions)]

/-- What reads the part of a named tuple at a position. -/
def tuplePart (position : Nat) : Value :=
  .known (other "_collections" "_tuplegetter")
    [("__doc__", .text ("Alias for field number " ++ toString position))]

def namedConstants (fields : List String) : List (String × Value) :=
  let names := .tuple (Value.texts fields)
  [("__slots__", .tuple []), ("_fields", names), ("__match_args__", names),
   ("_field_defaults", .directory [])] ++ fields.zip ((List.range fields.length).map tuplePart)

/-! ## Model records -/

def modelFields : Class → List (String × Value)
  | account =>
      [("id", .kind int),
       ("tags", .known (other "types" "GenericAlias")
        [("__origin__", .kind list), ("__args__", .tuple [.kind text]),
         ("__parameters__", .tuple []), ("__unpacked__", .flag false)])]
  | handle => [("id", .kind int), ("lock", .kind object)]
  | _ => []

/-- What a class of model records notes about a field. -/
def modelFieldNote (content : Value) : Value :=
  .known (other "pydantic.fields" "FieldInfo")
    ([("annotation", content),
      ("default", .unknown (other "pydantic_core._pydantic_core" "PydanticUndefinedType")),
      ("repr", .flag true), ("metadata", .list [])] ++
      (["alias", "alias_priority", "default_factory", "deprecated", "description", "discriminator",
        "examples", "exclude", "exclude_if", "field_title_generator", "frozen", "init",
        "init_var", "json_schema_extra", "kw_only", "serialization_alias", "title",
        "validate_default", "validation_alias"].map (·, .null)))

def modelConstants (c : Class) : List (String × Value) :=
  let notes := .directory (c.modelFields.map fun field => (field.1, modelFieldNote field.2))
  let ofCore (name : String) : Value := .unknown (other "pydantic_core._pydantic_core" name)
  [("model_config", .directory
      (if c = handle then [("arbitrary_types_allowed", .flag true)] else [])),
   ("model_fields", notes), ("__pydantic_fields__", notes),
   ("__annotations__", .directory c.modelFields),
   ("model_computed_fields", .directory []), ("__pydantic_computed_fields__", .directory []),
   ("__private_attributes__", .directory []), ("__class_vars__", .set false []),
   ("__abstractmethods__", .set true []), ("__pydantic_complete__", .flag true),
   ("__pydantic_custom_init__", .flag false), ("__pydantic_root_model__", .flag false),
   ("__pydantic_post_init__", .null), ("__pydantic_parent_namespace__", .null),
   ("__pydantic_setattr_handlers__", .directory []),
   ("__pydantic_generic_metadata__", .directory
      [("origin", .null), ("args", .tuple []), ("parameters", .tuple [])]),
   ("__pydantic_decorators__",
      .unknown (other "pydantic._internal._decorators" "DecoratorInfos")),
   ("__pydantic_core_schema__", .unknown dict),
   ("__pydantic_validator__", ofCore "SchemaValidator"),
   ("__pydantic_serializer__", ofCore "SchemaSerializer"),
   ("_abc_impl", .unknown (other "_abc" "_abc_data"))]

/-! ## Other classes -/

def extremes : Class → List (String × Value)
  | date => range (.date ⟨1, 1, 1⟩) (.date ⟨9999, 12, 31⟩) (86400 * 1000000)
  | dateTime => range (.dateTime ⟨⟨1, 1, 1⟩, ⟨0, 0, 0, 0, none⟩⟩)
      (.dateTime ⟨⟨9999, 12, 31⟩, ⟨23, 59, 59, 999999, none⟩⟩) 1
  | time => range (.time ⟨0, 0, 0, 0, none⟩) (.time ⟨23, 59, 59, 999999, none⟩) 1
  | duration => range (.duration (-999999999 * 86400000000))
      (.duration (1000000000 * 86400000000 - 1)) 1
  | zone => [("utc", .scalar (.zone 0)), ("min", .scalar (.zone (-86340))),
      ("max", .scalar (.zone 86340))]
  | _ => []
where
  range (least greatest : Scalar) (step : Int) : List (String × Value) :=
    [("min", .scalar least), ("max", .scalar greatest), ("resolution", .scalar (.duration step))]

/-- What enumerations without members keep about members. -/
def memberConstants (kind : MemberKind) : List (String × Value) :=
  [("_use_args_", .flag (kind ≠ .plain)), ("_member_names_", .list []),
   ("_member_map_", .directory []), ("_value2member_map_", .directory []),
   ("_unhashable_values_", .list []), ("_member_type_", .kind (memberValue kind))] ++
    (if kind = .plain then [("_value_repr_", .null)] else [])

/-- What an abstract class keeps: the names that a class below it has to declare. -/
def abstractConstants (names : List String) : List (String × Value) :=
  [("__slots__", .tuple []), ("__abstractmethods__", .set true (Value.texts names)),
   ("_abc_impl", .unknown (other "_abc" "_abc_data"))]

def ownConstants (c : Class) : List (String × Value) :=
  match c with
  | named _ fields => namedConstants fields
  | lookup => ("value", .null) :: c.recordConstants
  | data _ _ | wildcard | exact | shape | matcher => c.recordConstants
  | pattern | marker => [("__slots__", .tuple [])]
  | uuid => [("__slots__", .tuple (Value.texts ["int", "is_safe", "__weakref__"]))]
  | mapping =>
      ("__reversed__", .null) :: abstractConstants ["__getitem__", "__iter__", "__len__"]
  | other "collections.abc" "Collection" =>
      abstractConstants ["__contains__", "__iter__", "__len__"]
  | other "collections.abc" "Sized" => abstractConstants ["__len__"]
  | other "collections.abc" "Iterable" => abstractConstants ["__iter__"]
  | other "collections.abc" "Container" => abstractConstants ["__contains__"]
  | account | handle => c.modelConstants
  | other "pydantic.main" _ =>
      [("__slots__", .tuple (Value.texts ["__dict__", "__pydantic_fields_set__",
        "__pydantic_extra__", "__pydantic_private__"]))]
  | other "dataclasses" "Field" =>
      [("__slots__", .tuple (Value.texts ["name", "type", "default", "default_factory", "repr",
        "hash", "init", "compare", "metadata", "kw_only", "_field_type"]))]
  | other "dataclasses" "_DataclassParams" =>
      [("__slots__", .tuple (Value.texts ["init", "repr", "eq", "order", "unsafe_hash",
        "frozen"]))]
  | enum | other "enum" "ReprEnum" => memberConstants .plain
  | other "enum" "IntEnum" => memberConstants .int
  | other "enum" "StrEnum" => memberConstants .text
  | c => c.extremes

def constants (c : Class) : List (String × Value) :=
  (if c.notesModule then c.module?.toList.map (("__module__", .text ·)) else []) ++
  (if c.isUnhashable then [("__hash__", .null)] else []) ++
  ("__doc__", c.description.value) :: c.ownConstants

end CachePolicy.Class
