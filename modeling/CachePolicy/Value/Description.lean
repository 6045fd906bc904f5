import CachePolicy.Value.Routine.Record
import CachePolicy.Value.Shown

/-!
# What classes say about themselves

The description of a class, how it is called to make a value, and the notes that a class
of records keeps on the types of its fields.
-/

namespace CachePolicy.Class

open Routine

/-! ## Records -/

def fieldNotes : Class → List (String × String)
  | data _ fields => fields.map (·, "typing.Any")
  | lookup => [("status", "LookupStatus"), ("value", "Any")]
  | exact => [("value", "Any")]
  | shape => [("elements", "tuple[Pattern, ...]")]
  | matcher => [("cls", "type"), ("fields", "tuple[tuple[str, Pattern], ...]")]
  | _ => []

def recordCall (name : String) (notes : List (String × String)) : String :=
  recordText name (notes.map fun note => note.1 ++ ": " ++ quoted note.2)

/-! ## Descriptions -/

/-- What a class says about itself.  A class of records without a text of its own says how it is
called. -/
def description : Class → Description
  | c@(data name _) => recordCall name c.fieldNotes
  | exact => recordCall exact.name exact.fieldNotes
  | named name fields => name ++ "(" ++ listed fields ++ ")"
  | pattern => "A structural predicate over a result value."
  | wildcard => "Matches every value."
  | shape => "A tuple of fixed length whose elements match element-wise."
  | matcher =>
      words ["An instance of ``cls`` whose named fields match.\n\n    Fields are read as ",
             "attributes, or as items when ``cls`` is a mapping type.\n    "]
  | lookup =>
      words ["Outcome of a backend read.\n\n    A hit carrying ``None`` is treated as a miss by ",
             "the engine.\n    "]
  | object =>
      words ["The base class of the class hierarchy.\n\nWhen called, it accepts no arguments ",
             "and returns a new featureless\ninstance that has no instance attributes and ",
             "cannot be given any.\n"]
  | flag =>
      words ["bool(x) -> bool\n\nReturns True when the argument x is true, False otherwise.\n",
             "The builtins True and False are the only two instances of the class bool.\nThe ",
             "class bool is a subclass of the class int, and cannot be subclassed."]
  | int =>
      words ["int([x]) -> integer\nint(x, base=10) -> integer\n\nConvert a number or string ",
             "to an integer, or return 0 if no arguments\nare given.  If x is a number, ",
             "return x.__int__().  For floating point\nnumbers, this truncates towards ",
             "zero.\n\nIf x is not a number or if base is given, then x must be a string,\n",
             "bytes, or bytearray instance representing an integer literal in the\ngiven ",
             "base.  The literal can be preceded by '+' or '-' and be surrounded\nby ",
             "whitespace.  The base defaults to 10.  Valid bases are 0 and 2-36.\nBase 0 ",
             "means to interpret the base from the string as an integer literal.\n>>> ",
             "int('0b100', base=0)\n4"]
  | float => "Convert a string or number to a floating point number, if possible."
  | text =>
      words ["str(object='') -> str\nstr(bytes_or_buffer[, encoding[, errors]]) -> str\n\n",
             "Create a new string object from the given object. If encoding or\nerrors is ",
             "specified, then the object must expose a data buffer\nthat will be decoded ",
             "using the given encoding and error handler.\nOtherwise, returns the result of ",
             "object.__str__() (if defined)\nor repr(object).\nencoding defaults to ",
             "sys.getdefaultencoding().\nerrors defaults to 'strict'."]
  | bytes =>
      words ["bytes(iterable_of_ints) -> bytes\nbytes(string, encoding[, errors]) -> bytes\n",
             "bytes(bytes_or_buffer) -> immutable copy of bytes_or_buffer\nbytes(int) -> ",
             "bytes object of size given by the parameter initialized with null bytes\n",
             "bytes() -> empty bytes object\n\nConstruct an immutable array of bytes from:\n  ",
             "- an iterable yielding integers in range(256)\n  - a text string encoded using ",
             "the specified encoding\n  - any object implementing the buffer API.\n  - an ",
             "integer"]
  | buffer =>
      words ["bytearray(iterable_of_ints) -> bytearray\nbytearray(string, encoding[, errors]) ",
             "-> bytearray\nbytearray(bytes_or_buffer) -> mutable copy of bytes_or_buffer\n",
             "bytearray(int) -> bytes array of size given by the parameter initialized with ",
             "null bytes\nbytearray() -> empty bytes array\n\nConstruct a mutable bytearray ",
             "object from:\n  - an iterable yielding integers in range(256)\n  - a text ",
             "string encoded using the specified encoding\n  - a bytes or a buffer object\n  ",
             "- any object implementing the buffer API.\n  - an integer"]
  | tuple =>
      words ["Built-in immutable sequence.\n\nIf no argument is given, the constructor ",
             "returns an empty tuple.\nIf iterable is specified the tuple is initialized from ",
             "iterable's items.\n\nIf the argument is a tuple, the return value is the same ",
             "object."]
  | list =>
      words ["Built-in mutable sequence.\n\nIf no argument is given, the constructor creates ",
             "a new empty list.\nThe argument must be an iterable if specified."]
  | set =>
      words ["set() -> new empty set object\nset(iterable) -> new set object\n\nBuild an ",
             "unordered collection of unique elements."]
  | frozenSet =>
      words ["frozenset() -> empty frozenset object\nfrozenset(iterable) -> frozenset ",
             "object\n\nBuild an immutable unordered collection of unique elements."]
  | dict =>
      words ["dict() -> new empty dictionary\ndict(mapping) -> new dictionary initialized ",
             "from a mapping object's\n    (key, value) pairs\ndict(iterable) -> new ",
             "dictionary initialized as if via:\n    d = \x7b\x7d\n    for k, v in ",
             "iterable:\n        d[k] = v\ndict(**kwargs) -> new dictionary initialized with ",
             "the name=value pairs\n    in the keyword argument list.  For example:  ",
             "dict(one=1, two=2)"]
  | mapping =>
      words ["A Mapping is a generic container for associating key/value\n    pairs.\n\n    ",
             "This class provides concrete generic implementations of all\n    methods except ",
             "for __getitem__, __iter__, and __len__.\n    "]
  | date => "date(year, month, day) --> date object"
  | dateTime =>
      words ["datetime(year, month, day[, hour[, minute[, second[, ",
             "microsecond[,tzinfo]]]]])\n\nThe year, month and day arguments are required. ",
             "tzinfo may be None, or an\ninstance of a tzinfo subclass. The remaining ",
             "arguments may be ints.\n"]
  | time =>
      words ["time([hour[, minute[, second[, microsecond[, tzinfo]]]]]) --> a time object\n\n",
             "All arguments are optional. tzinfo may be None, or an instance of\na tzinfo ",
             "subclass. The remaining arguments may be ints.\n"]
  | duration =>
      words ["Difference between two datetime values.\n\ntimedelta(days=0, seconds=0, ",
             "microseconds=0, milliseconds=0, minutes=0, hours=0, weeks=0)\n\nAll arguments ",
             "are optional and default to 0.\nArguments may be integers or floats, and may be ",
             "positive or negative."]
  | zone => "Fixed offset from UTC implementation of tzinfo."
  | decimal =>
      words ["Construct a new Decimal object. 'value' can be an integer, string, tuple,\nor ",
             "another Decimal object. If no value is given, return Decimal('0'). The\ncontext ",
             "does not affect the conversion and is only passed to determine if\nthe ",
             "InvalidOperation trap is active.\n\n"]
  | lock =>
      words ["A lock object is a synchronization primitive.  To create a lock,\ncall ",
             "threading.Lock().  Methods are:\n\nacquire() -- lock the lock, possibly ",
             "blocking until it can be obtained\nrelease() -- unlock of the lock\nlocked() -- ",
             "test whether the lock is currently locked\n\nA lock is not owned by the thread ",
             "that locked it; another thread may\nunlock it.  A thread attempting to lock a ",
             "lock that it has already locked\nwill block until another thread unlocks it.  ",
             "Deadlocks may ensue."]
  | kind => "type(object) -> the object's type\ntype(name, bases, dict, **kwds) -> a new type"
  | enumKind => "\n    Metaclass for Enum\n    "
  | other "enum" "IntEnum" =>
      "\n    Enum where members are also (and must be) ints\n    "
  | other "enum" "StrEnum" =>
      "\n    Enum where members are also (and must be) strings\n    "
  | other "enum" "ReprEnum" =>
      "\n    Only changes the repr(), leaving str() and format() to the mixed-in type.\n    "
  | other "datetime" "tzinfo" => "Abstract base class for time zone info objects."
  | uuid | enum | abstractKind | other "pydantic.main" _ | other "types" _ => .long
  | members .plain "SafeUUID" => "An enumeration."
  | builtIn name =>
      if ["method", "function", "property", "code"].contains name then .long else .absent
  | null | view | opaqueObject | model | account | handle | marker | modelKind | members _ _
  | other _ _ => .absent

def signature? : Class → Option String
  | object => some "()"
  | float => some "(x=0, /)"
  | tuple | list => some "(iterable=(), /)"
  | decimal => some "(value=\"0\", context=None)"
  | builtIn "method" => some "(function, instance, /)"
  | builtIn "function" => some "(code, globals, name=None, argdefs=None, closure=None)"
  | builtIn "property" => some "(fget=None, fset=None, fdel=None, doc=None)"
  | _ => none

end CachePolicy.Class
