import CachePolicy.Key.Fragment
import CachePolicy.Table

/-!
# Key templates

A template is a text with names in braces.  `parse` splits it into literal texts and
placeholders: it takes the leftmost braces that hold exactly a name, and every other
brace is literal.  `compile` also checks every placeholder against the names that an
operation binds, and `render` puts the fragments of the bound values in their places.
-/

namespace CachePolicy

inductive Segment where
  | literal (text : String)
  | placeholder (name : String)
  deriving DecidableEq, Repr

abbrev Bindings := Table String Value

/-! ## Names -/

def isNameStart (c : Char) : Bool :=
  ('A' ≤ c && c ≤ 'Z') || ('a' ≤ c && c ≤ 'z') || c = '_'

def isNameChar (c : Char) : Bool := isNameStart c || ('0' ≤ c && c ≤ '9')

def isName (cs : List Char) : Bool :=
  match cs with
  | [] => false
  | c :: rest => isNameStart c && rest.all isNameChar

/-- The name between an open brace, which is already read, and the brace that closes it. -/
def bracedName? (cs : List Char) : Option (List Char) :=
  let name := cs.takeWhile isNameChar
  if isName name && (cs.dropWhile isNameChar).head? == some '\x7d' then some name else none

/-! ## Segments -/

namespace Segment

def name? : Segment → Option String
  | literal _ => none
  | placeholder name => some name

def chars : Segment → List Char
  | literal text => text.toList
  | placeholder name => '\x7b' :: name.toList ++ ['\x7d']

/-- The literal of the characters read since the last placeholder, the latest first. -/
def pendingLiteral : List Char → List Segment
  | [] => []
  | pending => [literal (String.ofList pending.reverse)]

/-- Reads a template, of which the first few characters belong to a placeholder that was read
already. -/
def scan : Nat → List Char → List Char → List Segment
  | _, pending, [] => pendingLiteral pending
  | skip + 1, pending, _ :: cs => scan skip pending cs
  | 0, pending, c :: cs =>
      match if c = '\x7b' then bracedName? cs else none with
      | some name =>
          pendingLiteral pending ++
            placeholder (String.ofList name) :: scan (name.length + 1) [] cs
      | none => scan 0 (c :: pending) cs

def parse (template : String) : List Segment := scan 0 [] template.toList

def print (segments : List Segment) : String := String.ofList (segments.flatMap chars)

end Segment

/-! ## Compiled keys -/

structure CompiledKey where
  template : String
  segments : List Segment
  deriving DecidableEq, Repr

namespace CompiledKey

def placeholders (key : CompiledKey) : List String := key.segments.filterMap Segment.name?

def isConstant (key : CompiledKey) : Bool := key.placeholders.isEmpty

/-- The fault of a value that is no template; a value that cannot be shown has its own. -/
def refusal (template : Value) (operation mode : String) : Fault :=
  match template.shown with
  | .ok shown => .invalidTemplate shown operation mode template
  | .error fault => fault

/-- Only a text that is not empty, with placeholders among the known names, is a template; the
leftmost unknown placeholder is reported. -/
def compile (template : Value) (known : List String) (operation mode : String) :
    Except Fault CompiledKey :=
  match template.text? with
  | none => .error (refusal template operation mode)
  | some text =>
      let segments := Segment.parse text
      if segments.isEmpty then .error (.emptyTemplate operation mode)
      else
        match (segments.filterMap Segment.name?).find? fun name => !known.contains name with
        | some name => .error (.unknownPlaceholder name operation mode template)
        | none => .ok ⟨text, segments⟩

def segmentText (bindings : Bindings) : Segment → Except Fault String
  | .literal text => .ok text
  | .placeholder name =>
      match bindings.get? name with
      | some value => value.fragment
      | none => .error (.missingBinding name)

def render (key : CompiledKey) (bindings : Bindings) : Except Fault String := do
  return String.join (← key.segments.mapM (segmentText bindings))

end CompiledKey

end CachePolicy
