import CachePolicy.Text.Blank
import CachePolicy.Value.Class

/-!
# Routines

Besides its data, a value answers to the names of the routines that its class and the
classes above it declare.  A routine tells its name, how it is called and what it does.
-/

namespace CachePolicy

/-- How a class provides a routine.  Operators and methods are called with a value, and the later
forms with the class or without either.  The written forms are functions.  The last three forms
read a part of a value. -/
inductive RoutineForm where
  | operator
  | method
  | ofClass
  | creator
  | shared
  | written
  | writtenOfClass
  | writtenShared
  | reader
  | member
  | property
  deriving DecidableEq, Repr

def RoutineForm.readsPart : RoutineForm → Bool
  | reader | member | property => true
  | _ => false

/-- What a routine says about itself.  Texts of up to 160 characters are kept; of a longer one it
is only known that there is one. -/
inductive Description where
  | absent
  | brief (words : String)
  | long
  deriving Repr

instance : Coe String Description := ⟨.brief⟩

/-- A routine of a class.  A function names the module that declares it, if that is not the module
of the class, has notes on its parameters, each a text or null, and takes null for as many of the
last ones as are optional. -/
structure Routine where
  form : RoutineForm
  name : String
  signature : Option String := none
  description : Description := .absent
  module : Option String := none
  parameters : List (String × Option String) := []
  optionals : Nat := 0

namespace Routine

def words (pieces : List String) : String := String.join pieces

/-- A routine with its signature and its description, of which an empty one stands for none. -/
def told (form : RoutineForm) (name signature description : String) : Routine :=
  { form, name, signature := nonEmpty? (some signature),
    description := if description.isEmpty then .absent else .brief description }

/-- A routine with its signature and a description that is too long to be kept. -/
def lengthy (form : RoutineForm) (name signature : String) : Routine :=
  { told form name signature "" with description := .long }

def operator (name signature description : String) : Routine :=
  told .operator name signature description

def method (name signature description : String) : Routine :=
  told .method name signature description

def ofClass (name signature description : String) : Routine :=
  told .ofClass name signature description

def shared (name signature description : String) : Routine :=
  told .shared name signature description

def written (name description : String) : Routine := told .written name "" description

def writtenOfClass (name description : String) : Routine :=
  told .writtenOfClass name "" description

def writtenShared (name description : String) : Routine :=
  told .writtenShared name "" description

def reader (name description : String) : Routine := told .reader name "" description

def member (name description : String) : Routine := told .member name "" description

def property (name description : String) : Routine := told .property name "" description

/-! ## Routines without a description -/

def methods (names : List String) : List Routine := names.map (.method · "" "")

def functions (names : List String) : List Routine := names.map (.written · "")

def classFunctions (names : List String) : List Routine := names.map (.writtenOfClass · "")

def sharedFunctions (names : List String) : List Routine := names.map (.writtenShared · "")

def readers (names : List String) : List Routine := names.map (.reader · "")

def members (names : List String) : List Routine := names.map (.member · "")

def properties (names : List String) : List Routine := names.map (.property · "")

def ownParts : List Routine :=
  [reader "__dict__" "dictionary for instance variables",
   reader "__weakref__" "list of weak references to the object"]

/-! ## Operators -/

/-- The names of the operators with two operands, and the symbols they are written with. -/
def symbols : List (String × String) :=
  [("add", "+"), ("sub", "-"), ("mul", "*"), ("truediv", "/"), ("floordiv", "//"), ("mod", "%"),
   ("and", "&"), ("or", "|"), ("xor", "^"), ("lshift", "<<"), ("rshift", ">>"), ("eq", "=="),
   ("ne", "!="), ("lt", "<"), ("le", "<="), ("gt", ">"), ("ge", ">=")]

/-- What the operators say that are not written between two operands. -/
def operatorNotes : List (String × String × String) :=
  [("abs", "($self, /)", "abs(self)"),
   ("bool", "($self, /)", "True if self else False"),
   ("await", "($self, /)", "Return an iterator to be used in await expression."),
   ("call", "($self, /, *args, **kwargs)", "Call self as a function."),
   ("contains", "($self, key, /)", "Return key in self."),
   ("delattr", "($self, name, /)", "Implement delattr(self, name)."),
   ("delete", "($self, instance, /)", "Delete an attribute of instance."),
   ("delitem", "($self, key, /)", "Delete self[key]."),
   ("divmod", "($self, value, /)", "Return divmod(self, value)."),
   ("float", "($self, /)", "float(self)"),
   ("get", "($self, instance, owner=None, /)",
    "Return an attribute of instance, which is of type owner."),
   ("getattribute", "($self, name, /)", "Return getattr(self, name)."),
   ("getitem", "($self, key, /)", "Return self[key]."),
   ("hash", "($self, /)", "Return hash(self)."),
   ("iadd", "($self, value, /)", "Implement self+=value."),
   ("imul", "($self, value, /)", "Implement self*=value."),
   ("index", "($self, /)", "Return self converted to an integer, if self is suitable for use as " ++
    "an index into a list."),
   ("init", "($self, /, *args, **kwargs)",
    "Initialize self.  See help(type(self)) for accurate signature."),
   ("int", "($self, /)", "int(self)"),
   ("invert", "($self, /)", "~self"),
   ("iter", "($self, /)", "Implement iter(self)."),
   ("len", "($self, /)", "Return len(self)."),
   ("neg", "($self, /)", "-self"),
   ("pos", "($self, /)", "+self"),
   ("pow", "($self, value, mod=None, /)", "Return pow(self, value, mod)."),
   ("rdivmod", "($self, value, /)", "Return divmod(value, self)."),
   ("repr", "($self, /)", "Return repr(self)."),
   ("rpow", "($self, value, mod=None, /)", "Return pow(value, self, mod)."),
   ("set", "($self, instance, value, /)", "Set an attribute of instance to value."),
   ("setattr", "($self, name, value, /)", "Implement setattr(self, name, value)."),
   ("setitem", "($self, key, value, /)", "Set self[key] to value."),
   ("str", "($self, /)", "Return str(self).")]

/-- What an operator with two operands says: with the value in front, with the value behind, or in
place. -/
def binaryDescription? (name : String) : Option String :=
  match symbols.lookup name, name.toList with
  | some symbol, _ => some ("Return self" ++ symbol ++ "value.")
  | none, 'r' :: rest =>
      (symbols.lookup (String.ofList rest)).map fun symbol => "Return value" ++ symbol ++ "self."
  | none, 'i' :: rest =>
      (symbols.lookup (String.ofList rest)).map fun symbol => "Return self" ++ symbol ++ "=value."
  | none, _ => none

/-- The operator with a name, which stands between two underscores on either side. -/
def ofOperatorName (name : String) : Routine :=
  let full := "__" ++ name ++ "__"
  match operatorNotes.lookup name, binaryDescription? name with
  | some (signature, words), _ => .operator full signature words
  | none, some words => .operator full "($self, value, /)" words
  | none, none => .operator full "" ""

def operators (names : List String) : List Routine := names.map ofOperatorName

def creator : Routine :=
  told .creator "__new__" "($type, *args, **kwargs)"
    "Create and return a new object.  See help(type) for accurate signature."

end Routine

end CachePolicy
