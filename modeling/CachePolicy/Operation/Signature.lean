import CachePolicy.Key.Template
import CachePolicy.Text.Blank

/-!
# Signatures and calls

A signature lists the parameters of an operation.  `bind` maps the parameters to the
values of a call and gives nothing when the call does not fit; `receive` is what the
body of the operation gets.  They differ in one point: a keyword with the name of a
positional parameter that takes its default is refused by `bind`, while `receive`
leaves it to the parameter that collects keywords.
-/

namespace CachePolicy

inductive ParameterKind where
  | positionalOnly
  | ordinary
  | variadic
  | keywordOnly
  | keywords
  deriving DecidableEq, Repr

structure Parameter where
  name : String
  kind : ParameterKind
  default? : Option Value

structure Arguments where
  positional : List Value
  keywords : Table String Value

abbrev Signature := List Parameter

/-- The parameter of this name is thrown away and never part of a key. -/
def discarded : String := "_"

namespace Signature

def arity (s : Signature) : Nat := s.length

def argumentNames (s : Signature) : List String :=
  (s.map Parameter.name).filter fun name => name ≠ discarded

def keywordEntries (keywords : Table String Value) : List (Value × Value) :=
  keywords.map fun entry => (.text entry.1, entry.2)

/-- Gives every parameter its value, in order.  `strict` refuses a keyword with the name of a
positional parameter that got no value. -/
def fill (strict : Bool) : Signature → List Value → Table String Value → Option Bindings
  | [], [], [] => some []
  | [], _, _ => none
  | p :: rest, positional, keywords =>
      match p.kind, positional with
      | .variadic, items =>
          (fill strict rest [] keywords).map ((p.name, .tuple items) :: ·)
      | .keywords, _ =>
          (fill strict rest positional []).map
            ((p.name, .dict false (keywordEntries keywords)) :: ·)
      | .positionalOnly, value :: positional =>
          (fill strict rest positional keywords).map ((p.name, value) :: ·)
      | .positionalOnly, [] =>
          if strict && keywords.contains p.name then none
          else
            match p.default? with
            | some value => (fill strict rest [] keywords).map ((p.name, value) :: ·)
            | none => none
      | .ordinary, value :: positional =>
          if keywords.contains p.name then none
          else (fill strict rest positional keywords).map ((p.name, value) :: ·)
      | .ordinary, [] | .keywordOnly, [] =>
          match (keywords.get? p.name).or p.default? with
          | some value =>
              (fill strict rest [] (keywords.erase p.name)).map ((p.name, value) :: ·)
          | none => none
      | .keywordOnly, _ :: _ => none

def receive (s : Signature) (a : Arguments) : Option Bindings :=
  s.fill false a.positional a.keywords

def bind (s : Signature) (a : Arguments) : Option Bindings :=
  (s.fill true a.positional a.keywords).map fun bound =>
    bound.filter fun entry => entry.1 ≠ discarded

end Signature

/-! ## Names of operations -/

/-- How a callable calls itself.  A name may be absent, or present without a text. -/
structure Callable where
  module : Option String
  qualifiedName : Option String
  name : Option (Option String)
  shown : String
  deriving DecidableEq, Repr

/-- The module, the most specific name there is, and the number of parameters. -/
def Callable.operationName (c : Callable) (arity : Nat) : String :=
  let module := (nonEmpty? c.module).getD "<unknown>"
  let name := (nonEmpty? c.qualifiedName).getD
    (match c.name with
      | some (some name) => name
      | some none => "None"
      | none => c.shown)
  module ++ "." ++ name ++ "/" ++ String.ofList (decimalDigits arity)

end CachePolicy
