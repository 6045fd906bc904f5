import CachePolicy.Value.Routine.Basic

/-!
# Routines of records

The routines of identifiers, of records and named tuples, of patterns and lookups, of objects
and of model records, and those of the notes that classes of records keep.
-/

namespace CachePolicy.Routine

def ofUuid : List Routine :=
  members ["int", "is_safe"] ++
  properties ["bytes", "bytes_le", "clock_seq", "clock_seq_hi_variant", "clock_seq_low", "fields",
      "hex", "node", "time", "time_hi_version", "time_low", "time_mid", "urn", "variant",
      "version"] ++
  functions ["__eq__", "__ge__", "__getstate__", "__gt__", "__hash__", "__int__", "__le__",
      "__lt__", "__repr__", "__setattr__", "__setstate__", "__str__"] ++
  [{ form := .written, name := "__init__", description := .long, optionals := 6 },
   reader "__weakref__" "list of weak references to the object"]

/-- The fields of a record with notes on them, which a routine takes as parameters. -/
def ofFields (fields : List (String × String)) : List (String × Option String) :=
  fields.map (fun field => (field.1, some field.2)) ++ [("return", none)]

def ofRecord : List Routine :=
  functions ["__delattr__", "__eq__", "__hash__", "__setattr__"] ++ ownParts

/-- The routine that shows a record, unless one is written for it. -/
def recordShowing : Routine := .written "__repr__" ""

def initializer (fields : List (String × String)) : Routine :=
  { form := .written, name := "__init__", parameters := ofFields fields }

def matching : Routine :=
  { form := .written, name := "matches",
    parameters := [("value", some "Any"), ("return", some "bool")] }

def showing : Routine :=
  { form := .written, name := "__repr__", parameters := [("return", some "str")] }

def ofShape : Routine :=
  { form := .written, name := "__init__",
    parameters := [("elements", some "Any"), ("return", some "None")] }

def ofMatcher : Routine :=
  { form := .written, name := "__init__",
    parameters := [("cls", some "type"), ("fields", some "Any"), ("return", some "None")] }

/-- The routines of lookups besides those of every record. -/
def ofLookup : List Routine :=
  [{ form := .writtenOfClass, name := "hit",
     parameters := [("value", some "Any"), ("return", some "'Lookup'")] },
   { form := .writtenOfClass, name := "miss", parameters := [("return", some "'Lookup'")] },
   { form := .writtenOfClass, name := "unavailable", parameters := [("return", some "'Lookup'")] },
   { form := .property, name := "found", parameters := [("return", some "bool")] }]

/-- The names of the parts of a named tuple as its description lists them. -/
def listed : List String → String
  | [field] => field ++ ","
  | fields => ", ".intercalate fields

def ofNamed (name : String) (fields : List String) : List Routine :=
  let library (r : Routine) : Routine := { r with module := some "collections" }
  [{ form := .writtenShared, name := "__new__",
     description := .brief ("Create new instance of " ++ name ++ "(" ++ listed fields ++ ")"),
     module := some ("namedtuple_" ++ name) },
   library (written "__getnewargs__" "Return self as a plain tuple.  Used by copy and pickle."),
   library (written "__repr__" "Return a nicely formatted representation string"),
   library (written "_asdict" "Return a new dict which maps field names to their values."),
   library (writtenOfClass "_make"
     ("Make a new " ++ name ++ " object from a sequence or iterable")),
   library (written "_replace"
     ("Return a new " ++ name ++ " object replacing specified fields with new values"))]

def ofOpaqueObject : List Routine :=
  functions ["__bool__", "__eq__", "__hash__", "__init__", "__str__"] ++ ownParts

def ofModelRecord : List Routine :=
  functions
    ["__copy__", "__deepcopy__", "__delattr__", "__eq__", "__getattr__", "__getstate__",
     "__init__", "__iter__", "__pretty__", "__replace__", "__repr__", "__repr_args__",
     "__repr_name__", "__repr_recursion__", "__repr_str__", "__rich_repr__", "__setattr__",
     "__setstate__", "__str__", "_calculate_keys", "_copy_and_set_values", "_iter",
     "_setattr_handler", "copy", "dict", "json", "model_copy", "model_dump", "model_dump_json",
     "model_post_init"] ++
  classFunctions
    ["__class_getitem__", "__get_pydantic_core_schema__", "__get_pydantic_json_schema__",
     "__pydantic_init_subclass__", "__pydantic_on_complete__", "_get_value", "construct",
     "from_orm", "model_construct", "model_json_schema", "model_parametrized_name",
     "model_rebuild", "model_validate", "model_validate_json", "model_validate_strings",
     "parse_file", "parse_obj", "parse_raw", "schema", "schema_json", "update_forward_refs",
     "validate"] ++
  properties ["__fields_set__", "model_extra", "model_fields_set"] ++
  members ["__pydantic_extra__", "__pydantic_fields_set__", "__pydantic_private__"] ++
  [reader "__dict__" "dictionary for instance variables"]

def ofModelKind : List Routine :=
  functions ["__dir__", "__getattr__", "__instancecheck__", "__subclasscheck__", "mro"] ++
  classFunctions ["__prepare__"] ++
  sharedFunctions ["__new__", "_collect_bases_data"] ++
  properties ["__fields__", "__pydantic_fields_complete__"]

def ofField : List Routine :=
  members ["_field_type", "compare", "default", "default_factory", "hash", "init", "kw_only",
      "metadata", "name", "repr", "type"] ++
  functions ["__init__", "__repr__", "__set_name__"] ++
  [writtenOfClass "__class_getitem__"
     (words ["Represent a PEP 585 generic type\n\nE.g. for t = list[int], t.__origin__ is ",
             "list and t.__args__ is (int,)."])]

def ofRecordOptions : List Routine :=
  members ["eq", "frozen", "init", "order", "repr", "unsafe_hash"] ++
  functions ["__init__", "__repr__"]

def ofFieldKind : List Routine :=
  functions ["__init__", "__repr__"] ++ ownParts

end CachePolicy.Routine
