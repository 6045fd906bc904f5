import CachePolicy.Log.Problem
import CachePolicy.Number.Fixed
import CachePolicy.Value.Equality
import CachePolicy.Value.Number

/-!
# Messages with arguments

A message is a text with directives of a percent sign and a letter.  Between the two
may stand the name of a member in brackets, flags, a least width and a precision, each of
the two last a number or a star for an argument.  Each directive takes the next argument
and is replaced by its text.  Two percent signs stand for one.
-/

namespace CachePolicy

/-! ## Arguments -/

/-- The arguments that were not taken yet, and the mapping that they came as, if they did. -/
structure Supply where
  waiting : List Value
  mapping : Option Value

namespace Supply

/-- The entries of a mapping have names or positions, so it need not be used up. -/
def hasEntries (v : Value) : Bool :=
  match v.bare with
  | .dict _ _ | .list _ | .scalar (.bytes _) | .scalar (.buffer _) => true
  | _ => false

/-- A tuple holds several arguments, and any other value is a single one. -/
def ofValue (v : Value) : Supply :=
  match v.tupleItems? with
  | some items => ⟨items, none⟩
  | none => ⟨[v], if hasEntries v then some v else none⟩

def take (s : Supply) : Except Fault (Value × Supply) :=
  match s.waiting with
  | [] => .error .formatMismatch
  | v :: rest => .ok (v, { s with waiting := rest })

/-- The entry of a name becomes the only argument. -/
def select (s : Supply) (name : String) : Except Fault Supply :=
  match s.mapping with
  | none => .error .formatMismatch
  | some mapping =>
      match mapping.bare, mapping.refused? (.item name) with
      | .dict _ _, some refusal => .error (.readRefused refusal)
      | .dict _ entries, none =>
          match entries.find? fun entry => entry.1.text? = some name with
          | some (_, v) => .ok { s with waiting := [v] }
          | none => .error (.missingBinding name)
      | _, _ => .error .formatMismatch

end Supply

/-! ## Directives -/

inductive Amount where
  | absent
  | count (n : Nat)
  | argument
  deriving DecidableEq, Repr

structure MessageDirective where
  name : Option (Option (List Char))
  flags : List Char
  width : Amount
  precision : Amount
  letter : Option Char
  length : Nat
  deriving DecidableEq, Repr

namespace MessageDirective

def isFlag (c : Char) : Bool := c = '-' || c = '+' || c = ' ' || c = '#' || c = '0'

def isNumberLetter (c : Char) : Bool := "diuxXoeEfFgG".toList.contains c

def closeName? : Nat → List Char → Option (List Char × List Char)
  | _, [] => none
  | 0, ')' :: rest => some ([], rest)
  | depth, c :: rest =>
      let depth := if c = '(' then depth + 1 else if c = ')' then depth - 1 else depth
      (closeName? depth rest).map fun (name, rest) => (c :: name, rest)

def readAmount (cs : List Char) : Amount × List Char :=
  match cs with
  | '*' :: rest => (.argument, rest)
  | cs =>
      let (digits, rest) := spanDigits cs
      (((readNat? digits).map Amount.count).getD .absent, rest)

/-- A point without digits is a precision of zero. -/
def readPrecision : List Char → Amount × List Char
  | '.' :: rest =>
      match readAmount rest with
      | (.absent, rest) => (.count 0, rest)
      | result => result
  | cs => (.absent, cs)

/-- Reads what stands behind a percent sign.  Letters for the size of a number mean nothing. -/
def read (cs : List Char) : MessageDirective :=
  let (name, behind) :=
    match cs with
    | '(' :: rest =>
        match closeName? 0 rest with
        | some (name, rest) => (some (some name), rest)
        | none => (some none, [])
    | cs => (none, cs)
  let flags := behind.takeWhile isFlag
  let (width, rest) := readAmount (behind.dropWhile isFlag)
  let (precision, rest) := readPrecision rest
  let rest :=
    match rest with
    | 'h' :: rest | 'l' :: rest | 'L' :: rest => rest
    | rest => rest
  ⟨name, flags, width, precision, rest.head?, cs.length - rest.tail.length⟩

/-! ## Texts of arguments -/

/-- A text with more places cannot be held. -/
def roomLimit : Nat := Nat.pow 2 27

def takeWidth (d : MessageDirective) (s : Supply) : Except Fault (Nat × Bool × Supply) := do
  let leftward := d.flags.contains '-'
  match d.width with
  | .absent => return (0, leftward, s)
  | .count n =>
      if Nat.pow 2 63 ≤ n then throw (.messageRefused .widthTooLarge)
      return (n, leftward, s)
  | .argument =>
      let (v, s) ← s.take
      let n ← v.integer
      if Nat.pow 2 63 ≤ n.natAbs then throw (.messageRefused .widthArgumentTooLarge)
      return (n.natAbs, leftward || n < 0, s)

def takePrecision (d : MessageDirective) (s : Supply) : Except Fault (Option Nat × Supply) := do
  match d.precision with
  | .absent => return (none, s)
  | .count n =>
      if Nat.pow 2 31 ≤ n then throw (.messageRefused .precisionTooLarge)
      return (some n, s)
  | .argument =>
      let (v, s) ← s.take
      let n ← v.integer
      if Nat.pow 2 31 ≤ n.natAbs then throw (.messageRefused .precisionArgumentTooLarge)
      return (some n.toNat, s)

/-- The text of a number, in parts: the sign and the mark of the base in front, and the digits. -/
def numberParts (d : MessageDirective) (letter : Char) (precision : Option Nat) (v : Value) :
    Except Fault (Bool × List Char × List Char) := do
  let full := d.flags.contains '#'
  let based (base : Nat) (mark : Char) : Except Fault (Bool × List Char × List Char) := do
    let n ← v.integer
    return (n < 0, if full then ['0', mark] else [],
      padLeft (precision.getD 0) '0' (Nat.toDigits base n.natAbs))
  let real (form : NumberForm) : Except Fault (Bool × List Char × List Char) := do
    let (negative, cs) := (← v.real).formChars form full (precision.getD 6)
    return (negative, [], cs)
  match letter.toLower with
  | 'x' => based 16 'x'
  | 'o' => based 8 'o'
  | 'e' => real .power
  | 'f' => real .places
  | 'g' => real .general
  | _ => do
      let n ← v.whole
      return (n < 0, [],
        padLeft (precision.getD 0) '0' (← limitedIntegerText n.natAbs).toList)

/-- A number in front of and behind the place where zeros fill it up. -/
def numberChars (d : MessageDirective) (letter : Char) (precision : Option Nat) (v : Value) :
    Except Fault (List Char × List Char) := do
  if roomLimit ≤ precision.getD 0 then throw (.messageRefused .noRoom)
  let (negative, mark, digits) ← d.numberParts letter precision v
  let sign :=
    if negative then ['-']
    else if d.flags.contains '+' then ['+']
    else if d.flags.contains ' ' then [' ']
    else []
  if letter.isUpper then return (sign ++ mark.map Char.toUpper, digits.map Char.toUpper)
  else return (sign ++ mark, digits)

def textChars (letter : Char) (precision : Option Nat) (v : Value) : Except Fault (List Char) := do
  let cs ←
    match letter with
    | 's' => do pure (← v.display).toList
    | 'r' => do pure (← v.shown).toList
    | _ => do
        pure ((← v.shown).toList.flatMap fun c =>
          if c.toNat < 128 then [c] else escapedNumber c.toNat)
  return match precision with
    | some n => cs.take n
    | none => cs

/-- A text of one character stands for itself, and an integer for the character it numbers. -/
def singleChar (v : Value) : Except Fault Char := do
  match v.text? with
  | some text =>
      match text.toList with
      | [c] => return c
      | _ => throw .formatMismatch
  | none =>
      let n ← v.integer
      if 0 ≤ n && n < 0x110000 then return Char.ofNat n.toNat
      else throw (.messageRefused .characterTooLarge)

/-- The text of an argument, in front of and behind the place where zeros fill it up. -/
def argumentChars (d : MessageDirective) (position : Nat) (letter : Char) (precision : Option Nat)
    (v : Value) : Except Fault (List Char × List Char) := do
  if "sra".toList.contains letter then return ([], ← textChars letter precision v)
  else if letter = 'c' then return ([], [← singleChar v])
  else if isNumberLetter letter then d.numberChars letter precision v
  else throw (.messageRefused (.conversion letter position))

/-- The text of a directive and the arguments left over.  The position is that of the letter. -/
def fill (d : MessageDirective) (position : Nat) (s : Supply) :
    Except Fault (List Char × Supply) := do
  let s ←
    match d.name with
    | none => pure s
    | some name =>
        if s.mapping.isNone then throw .formatMismatch
        match name with
        | none => throw (.messageRefused .incompleteName)
        | some name => s.select (String.ofList name)
  let (width, leftward, s) ← d.takeWidth s
  let (precision, s) ← d.takePrecision s
  match d.letter with
  | none => throw (.messageRefused .incomplete)
  | some letter =>
      let (v, s) ← s.take
      let (front, behind) ← d.argumentChars position letter precision v
      if roomLimit ≤ width then throw (.messageRefused .noRoom)
      if leftward then return (padRight width ' ' (front ++ behind), s)
      else if d.flags.contains '0' && isNumberLetter letter then
        return (front ++ padLeft (width - front.length) '0' behind, s)
      else return (padLeft width ' ' (front ++ behind), s)

end MessageDirective

/-! ## Messages -/

/-- Fills a message from a position on, of which the first few characters belong to a directive
already filled. -/
def fillMessage : Nat → Nat → List Char → Supply → Except Fault (List Char × Supply)
  | _, _, [], s => .ok ([], s)
  | skip + 1, position, _ :: rest, s => fillMessage skip (position + 1) rest s
  | 0, position, '%' :: '%' :: rest, s => do
      let (more, s) ← fillMessage 0 (position + 2) rest s
      return ('%' :: more, s)
  | 0, position, '%' :: rest, s => do
      let directive := MessageDirective.read rest
      let (cs, s) ← directive.fill (position + directive.length) s
      let (more, s) ← fillMessage directive.length (position + 1) rest s
      return (cs ++ more, s)
  | 0, position, c :: rest, s => do
      let (more, s) ← fillMessage 0 (position + 1) rest s
      return (c :: more, s)

/-- A message with its arguments put in, all of which have to be used unless they are entries. -/
def filledMessage (text : String) (arguments : Value) : Except Fault String := do
  let (cs, left) ← fillMessage 0 0 text.toList (.ofValue arguments)
  if left.waiting.isEmpty || left.mapping.isSome then return String.ofList cs
  else throw .formatMismatch

end CachePolicy
