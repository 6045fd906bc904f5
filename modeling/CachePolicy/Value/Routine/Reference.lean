import CachePolicy.Value.Routine.Basic

/-!
# Routines of classes, routines and locks

Classes and routines are values too, and have routines of their own.
-/

namespace CachePolicy.Routine

def ofKind : List Routine :=
  operators ["call", "delattr", "getattribute", "init", "or", "repr", "ror", "setattr"] ++
  [creator] ++
  readers ["__abstractmethods__", "__annotations__", "__bases__", "__dict__", "__doc__",
      "__module__", "__name__", "__qualname__", "__text_signature__"] ++
  members ["__base__", "__basicsize__", "__dictoffset__", "__flags__", "__itemsize__", "__mro__",
      "__weakrefoffset__"] ++
  [method "__dir__" "($self, /)" "Specialized __dir__ implementation for types.",
   method "__instancecheck__" "($self, instance, /)" "Check if an object is an instance.",
   ofClass "__prepare__" ""
     "__prepare__() -> dict\nused to create the namespace for the class statement",
   method "__sizeof__" "($self, /)" "Return memory consumption of the type object.",
   method "__subclasscheck__" "($self, subclass, /)" "Check if a class is a subclass.",
   method "__subclasses__" "($self, /)" "Return a list of immediate subclasses.",
   method "mro" "($self, /)" "Return a type's method resolution order."]

def ofAbstractKind : List Routine :=
  sharedFunctions ["__new__"] ++
  [written "__instancecheck__" "Override for isinstance(instance, cls).",
   written "__subclasscheck__" "Override for issubclass(subclass, cls).",
   written "_abc_caches_clear" "Clear the caches (for debugging or testing).",
   written "_abc_registry_clear" "Clear the registry (for debugging or testing).",
   written "_dump_registry" "Debug helper to print the ABC registry.",
   written "register"
     (words ["Register a virtual subclass of an ABC.\n\n            Returns the subclass, to ",
             "allow usage as a class decorator.\n            "])]

def ofMethod : List Routine :=
  operators ["call", "eq", "ge", "getattribute", "gt", "hash", "le", "lt", "ne", "repr"] ++
  methods ["__reduce__"] ++
  readers ["__doc__", "__name__", "__qualname__", "__self__", "__text_signature__"] ++
  members ["__module__"]

def ofOperator : List Routine :=
  operators ["call", "eq", "ge", "getattribute", "gt", "hash", "le", "lt", "ne", "repr"] ++
  methods ["__reduce__"] ++
  readers ["__doc__", "__name__", "__objclass__", "__qualname__", "__text_signature__"] ++
  members ["__self__"]

def ofBoundFunction : List Routine :=
  operators ["call", "delattr", "eq", "ge", "getattribute", "gt", "hash", "le", "lt", "ne",
      "repr", "setattr"] ++
  [creator] ++
  readers ["__doc__"] ++
  [member "__func__" "the function (or other callable) implementing a method",
   method "__reduce__" "($self, /)" "",
   member "__self__" "the instance to which a method is bound"]

def ofFunction : List Routine :=
  operators ["call", "get", "repr"] ++
  [creator] ++
  readers ["__annotations__", "__code__", "__defaults__", "__dict__", "__kwdefaults__",
      "__name__", "__qualname__"] ++
  members ["__builtins__", "__closure__", "__doc__", "__globals__", "__module__"]

def ofCode : List Routine :=
  operators ["eq", "ge", "getattribute", "gt", "hash", "le", "lt", "ne", "repr"] ++
  [creator] ++
  methods ["__sizeof__", "co_lines", "co_positions"] ++
  readers ["_co_code_adaptive", "co_cellvars", "co_code", "co_freevars", "co_lnotab",
      "co_varnames"] ++
  members ["co_argcount", "co_consts", "co_exceptiontable", "co_filename", "co_firstlineno",
      "co_flags", "co_kwonlyargcount", "co_linetable", "co_name", "co_names", "co_nlocals",
      "co_posonlyargcount", "co_qualname", "co_stacksize"] ++
  [method "_varname_from_oparg" "($self, /, oparg)"
     (words ["(internal-only) Return the local variable name for the given oparg.\n\nWARNING: ",
             "this method is for internal use only and may change or go away."]),
   method "replace" "($self, /, **changes)"
     "Return a copy of the code object with new values for the specified fields."]

def ofHeldOperator : List Routine :=
  operators ["call", "get", "getattribute", "repr"] ++
  methods ["__reduce__"] ++
  readers ["__doc__", "__qualname__", "__text_signature__"] ++
  members ["__name__", "__objclass__"]

def ofHeldMethod : List Routine :=
  operators ["call", "get", "getattribute", "repr"] ++
  methods ["__reduce__"] ++
  readers ["__doc__", "__qualname__", "__text_signature__"] ++
  members ["__name__", "__objclass__"]

def ofHeldOfClass : List Routine :=
  operators ["call", "get", "getattribute", "repr"] ++
  readers ["__doc__", "__qualname__", "__text_signature__"] ++
  members ["__name__", "__objclass__"]

def ofReader : List Routine :=
  operators ["delete", "get", "getattribute", "repr", "set"] ++
  readers ["__doc__", "__qualname__"] ++
  members ["__name__", "__objclass__"]

def ofStoredPart : List Routine :=
  operators ["delete", "get", "getattribute", "repr", "set"] ++
  methods ["__reduce__"] ++
  readers ["__doc__", "__qualname__"] ++
  members ["__name__", "__objclass__"]

def ofComputedPart : List Routine :=
  operators ["delete", "get", "getattribute", "init", "set"] ++
  [creator] ++
  readers ["__isabstractmethod__"] ++
  members ["__doc__", "fdel", "fget", "fset"] ++
  [method "__set_name__" "" "Method to set name of a property.",
   method "deleter" "" "Descriptor to obtain a copy of the property with a different deleter.",
   method "getter" "" "Descriptor to obtain a copy of the property with a different getter.",
   method "setter" "" "Descriptor to obtain a copy of the property with a different setter."]

def ofTuplePart : List Routine :=
  operators ["delete", "get", "repr", "set"] ++
  [creator] ++
  methods ["__reduce__"] ++
  members ["__doc__"]

def ofAppliedClass : List Routine :=
  operators ["call", "eq", "ge", "getattribute", "getitem", "gt", "hash", "iter", "le", "lt",
      "ne", "or", "repr", "ror"] ++
  [creator] ++
  methods ["__dir__", "__instancecheck__", "__mro_entries__", "__reduce__", "__subclasscheck__"] ++
  readers ["__typing_unpacked_tuple_args__"] ++
  members ["__args__", "__origin__", "__unpacked__"] ++
  [reader "__parameters__" "Type variables in the GenericAlias."]

def ofPending : List Routine :=
  operators ["await", "del", "getattribute", "repr"] ++
  readers ["cr_frame", "cr_running", "cr_suspended"] ++
  members ["cr_code", "cr_origin"] ++
  [reader "__name__" "name of the coroutine",
   reader "__qualname__" "qualified name of the coroutine",
   method "__sizeof__" "" "gen.__sizeof__() -> size of gen in memory, in bytes",
   method "close" "" "close() -> raise GeneratorExit inside coroutine.",
   reader "cr_await" "object being awaited on, or None",
   method "send" ""
     (words ["send(arg) -> send 'arg' into coroutine,\nreturn next iterated value or raise ",
             "StopIteration."]),
   method "throw" ""
     (words ["throw(value)\nthrow(type[,value[,traceback]])\n\nRaise exception in coroutine, ",
             "return next iterated value or raise\nStopIteration."])]

def ofLock : List Routine :=
  operators ["repr"] ++
  methods ["_at_fork_reinit"] ++
  [lengthy .method "__enter__" "",
   lengthy .method "__exit__" "",
   lengthy .method "acquire" "",
   lengthy .method "acquire_lock" "",
   method "locked" ""
     (words ["locked() -> bool\n(locked_lock() is an obsolete synonym)\n\nReturn whether the ",
             "lock is in the locked state."]),
   method "locked_lock" ""
     (words ["locked() -> bool\n(locked_lock() is an obsolete synonym)\n\nReturn whether the ",
             "lock is in the locked state."]),
   lengthy .method "release" "",
   lengthy .method "release_lock" ""]

end CachePolicy.Routine
