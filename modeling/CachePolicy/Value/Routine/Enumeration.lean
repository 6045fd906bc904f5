import CachePolicy.Value.Routine.Basic

/-!
# Routines of enumerations

The routines of members of enumerations and of the class of enumerations.
-/

namespace CachePolicy.Routine

def ofMember : List Routine :=
  functions ["__copy__", "__deepcopy__", "__format__", "__hash__", "__init__", "__reduce_ex__",
      "__repr__", "__str__"] ++
  sharedFunctions ["__new__"] ++
  classFunctions ["_missing_"] ++
  ownParts ++
  [written "__dir__"
     "\n        Returns public methods and other interesting attributes.\n        ",
   lengthy .written "_generate_next_value_" ""]

def ofTextMember : List Routine :=
  [written "_generate_next_value_"
     "\n        Return the lower-cased version of the member name.\n        "]

def ofEnumeration : List Routine :=
  functions ["__delattr__", "__dir__", "__repr__"] ++
  sharedFunctions ["__new__"] ++
  classFunctions ["__prepare__", "_check_for_existing_members_", "_find_data_repr_",
      "_find_data_type_"] ++
  [written "__bool__" "\n        classes/types should always be True.\n        ",
   lengthy .written "__call__" "",
   lengthy .written "__contains__" "",
   lengthy .written "__getattr__" "",
   written "__getitem__" "\n        Return the member matching `name`.\n        ",
   written "__iter__" "\n        Return members in definition order.\n        ",
   written "__len__" "\n        Return the number of members (no aliases)\n        ",
   lengthy .property "__members__" "",
   written "__reversed__" "\n        Return members in reverse definition order.\n        ",
   lengthy .written "__setattr__" "",
   written "_convert_"
     (words ["\n        Create a new Enum subclass that replaces a collection of global ",
             "constants\n        "]),
   lengthy .written "_create_" "",
   lengthy .writtenOfClass "_find_new_" "",
   lengthy .writtenOfClass "_get_mixins_" ""]

end CachePolicy.Routine
