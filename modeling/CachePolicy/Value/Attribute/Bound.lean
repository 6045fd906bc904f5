import CachePolicy.Value.Member
import CachePolicy.Value.Routine.Declared

/-!
# Routines as values

What a routine is when it is read from a value or from a class.  Read from a value it is
bound to that value; read from a class it is held by the class.  Either way only its parts
are known.
-/

namespace CachePolicy

namespace Value

def kind (c : Class) : Value := .scalar (.kind c)

def texts (names : List String) : List Value := names.map .text

def textOrNull (words : Option String) : Value := words.elim null text

def unknown (c : Class) : Value := known c []

def directory (entries : List (String × Value)) : Value :=
  dict false (entries.map fun entry => (text entry.1, entry.2))

end Value

def Description.value : Description → Value
  | absent => .null
  | brief words => .text words
  | long => .unknown .text

namespace Routine

/-- The name of a routine behind that of a class. -/
def nameIn (r : Routine) (c : Class) : Value := .text (c.name ++ "." ++ r.name)

def notes (r : Routine) (c : Class) : List (String × Value) :=
  [("__name__", .text r.name), ("__qualname__", r.nameIn c), ("__doc__", r.description.value),
   ("__text_signature__", .textOrNull r.signature)]

/-! ## Functions -/

def codeParts (r : Routine) (owner : Class) : List (String × Value) :=
  [("co_name", .text r.name), ("co_qualname", r.nameIn owner)] ++
    (["co_argcount", "co_firstlineno", "co_flags", "co_kwonlyargcount", "co_nlocals",
      "co_posonlyargcount", "co_stacksize"].map (·, Value.unknown .int)) ++
    (["co_code", "co_exceptiontable", "co_linetable", "co_lnotab", "_co_code_adaptive"].map
      (·, Value.unknown .bytes)) ++
    (["co_cellvars", "co_consts", "co_freevars", "co_names", "co_varnames"].map
      (·, Value.unknown .tuple)) ++
    [("co_filename", .unknown .text)]

def functionParts (r : Routine) (owner : Class) : List (String × Value) :=
  [("__name__", .text r.name), ("__qualname__", r.nameIn owner),
   ("__module__", .textOrNull (r.module.or owner.module?)), ("__doc__", r.description.value),
   ("__annotations__", .directory (r.parameters.map fun p => (p.1, .textOrNull p.2))),
   ("__defaults__",
      if r.optionals = 0 then .null else .tuple (List.replicate r.optionals .null)),
   ("__kwdefaults__", .null), ("__closure__", .null),
   ("__code__", .known (.builtIn "code") (r.codeParts owner)), ("__globals__", .directory []),
   ("__builtins__", .directory []), ("__dict__", .directory [])]

def function (r : Routine) (owner : Class) : Value :=
  .known (.builtIn "function") (r.functionParts owner)

/-! ## Routines of values -/

/-- A built-in routine that is called with a value, and is named after its class or after the value
itself if that is a class. -/
def withValue (r : Routine) (v : Value) : Value :=
  let c := match v.bare with
    | .scalar (.kind c) => c
    | v => v.ownClass
  .known (.builtIn "builtin_function_or_method")
    (("__self__", v) :: ("__module__", .null) :: r.notes c)

def operatorWithValue (r : Routine) (owner : Class) (v : Value) : Value :=
  .known (.builtIn "method-wrapper")
    (("__self__", v) :: ("__objclass__", .kind owner) :: r.notes owner)

/-- A function that is called with a value.  It tells what the function tells, and is bound to other
values like the function. -/
def functionWithValue (r : Routine) (owner : Class) (v : Value) : Value :=
  let function := r.function owner
  .known (.builtIn "method")
    (("__self__", v) :: ("__func__", function) ::
      ("__get__", (ofOperatorName "get").operatorWithValue (.builtIn "function") function) ::
      r.functionParts owner)

/-- A routine of a class as it is read from a value of a class below it.  What reads a part of a
value is not there to be read itself. -/
def boundTo (r : Routine) (owner c : Class) (v : Value) : Option Value :=
  match r.form with
  | .operator => r.operatorWithValue owner v
  | .method => r.withValue v
  | .ofClass => r.withValue (.kind c)
  | .creator => r.withValue (.kind owner)
  | .shared =>
      some (.known (.builtIn "builtin_function_or_method")
        (("__self__", .null) :: ("__module__", .null) :: r.notes owner))
  | .written => r.functionWithValue owner v
  | .writtenOfClass => r.functionWithValue owner (.kind c)
  | .writtenShared => r.function owner
  | .reader | .member | .property => none

/-! ## Routines of classes -/

def propertyParts (r : Routine) (owner : Class) : List (String × Value) :=
  [("fget", r.function owner), ("fset", .null), ("fdel", .null), ("__doc__", r.description.value),
   ("__isabstractmethod__", .flag false)]

/-- A routine of a class as it is read from the class or a class below it. -/
def heldBy (r : Routine) (owner c : Class) : Value :=
  let held (kind : String) (parts : List (String × Value)) : Value :=
    .known (.builtIn kind) (("__objclass__", .kind owner) :: parts)
  match r.form with
  | .operator => held "wrapper_descriptor" (r.notes owner)
  | .method => held "method_descriptor" (r.notes owner)
  | .ofClass => r.withValue (.kind c)
  | .creator => r.withValue (.kind owner)
  | .shared =>
      .known (.builtIn "builtin_function_or_method")
        (("__self__", .null) :: ("__module__", .null) :: r.notes owner)
  | .written | .writtenShared => r.function owner
  | .writtenOfClass => r.functionWithValue owner (.kind c)
  | .reader => held "getset_descriptor" ((r.notes owner).take 3)
  | .member => held "member_descriptor" ((r.notes owner).take 3)
  | .property => .known (.builtIn "property") (r.propertyParts owner)

end Routine

end CachePolicy
