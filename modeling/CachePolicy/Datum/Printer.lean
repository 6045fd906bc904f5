import CachePolicy.Datum.Basic
import CachePolicy.Value.Shown

/-!
# Plain data as JSON text

One printer with three styles: `compact` for keys, `sorting` for the order of set
elements, and `line` for logs.  Control characters, quotes and backslashes in texts
are escaped in every style, so a text never ends early and a line never breaks.
-/

namespace CachePolicy

namespace Datum

structure Style where
  ascii : Bool
  sorted : Bool
  itemSeparator : List Char
  nameSeparator : List Char
  deriving DecidableEq, Repr

/-- Members in the order of their names and no blanks; other characters stand for themselves. -/
def compact : Style := ⟨false, true, [','], [':']⟩

/-- Members in the order of their names, and only ASCII characters. -/
def sorting : Style := ⟨true, true, [',', ' '], [':', ' ']⟩

/-- Members in the order they were put. -/
def line : Style := ⟨false, false, [',', ' '], [':', ' ']⟩

/-! ## Texts -/

def escapedUnit (unit : Nat) : List Char :=
  '\\' :: 'u' :: padLeft 4 '0' (Nat.toDigits 16 unit)

/-- A character as one or two escaped UTF-16 units.  Two units would also be what a text of two
lone surrogates comes to, but a text is a sequence of characters, and no surrogate is one. -/
def escapedUnits (c : Char) : List Char :=
  if c.toNat < 0x10000 then escapedUnit c.toNat
  else
    let n := c.toNat - 0x10000
    escapedUnit (0xD800 + n / 0x400) ++ escapedUnit (0xDC00 + n % 0x400)

def escapedChar (ascii : Bool) (c : Char) : List Char :=
  if c = '"' then ['\\', '"']
  else if c = '\\' then ['\\', '\\']
  else if c = '\n' then ['\\', 'n']
  else if c = '\r' then ['\\', 'r']
  else if c = '\t' then ['\\', 't']
  else if c = '\x08' then ['\\', 'b']
  else if c = '\x0c' then ['\\', 'f']
  else if c.toNat < 0x20 || (ascii && 0x7E < c.toNat) then escapedUnits c
  else [c]

def textChars (ascii : Bool) (text : String) : List Char :=
  '"' :: text.toList.flatMap (escapedChar ascii) ++ ['"']

def floatText : Binary64 → String
  | .nan => "NaN"
  | .infinite negative => if negative then "-Infinity" else "Infinity"
  | x => x.text

/-! ## Trees -/

def joinedChars (separator : List Char) : List (List Char) → List Char
  | [] => []
  | [part] => part
  | part :: rest => part ++ separator ++ joinedChars separator rest

/-- Texts in the order of their characters, a text before those that it begins. -/
def charsLe : List Char → List Char → Bool
  | [], _ => true
  | _ :: _, [] => false
  | c :: cs, d :: ds => c < d || (c = d && charsLe cs ds)

def nameLe (a b : String × List Char) : Bool := charsLe a.1.toList b.1.toList

def memberChars (style : Style) (member : String × List Char) : List Char :=
  textChars style.ascii member.1 ++ style.nameSeparator ++ member.2

mutual

def chars (style : Style) : Datum → Except Fault (List Char)
  | null => .ok "null".toList
  | flag b => .ok (if b then "true".toList else "false".toList)
  | int n => do return (← limitedIntegerText n).toList
  | float x => .ok (floatText x).toList
  | text s => .ok (textChars style.ascii s)
  | list items => do
      return '[' :: joinedChars style.itemSeparator (← itemChars style items) ++ [']']
  | map members => do
      let printed ← namedChars style members
      let printed := if style.sorted then printed.mergeSort nameLe else printed
      return '\x7b' :: joinedChars style.itemSeparator (printed.map (memberChars style)) ++
        ['\x7d']

def itemChars (style : Style) : List Datum → Except Fault (List (List Char))
  | [] => .ok []
  | d :: rest => do return (← d.chars style) :: (← itemChars style rest)

def namedChars (style : Style) :
    List (String × Datum) → Except Fault (List (String × List Char))
  | [] => .ok []
  | (name, d) :: rest => do return (name, ← d.chars style) :: (← namedChars style rest)

end

def print (style : Style) (d : Datum) : Except Fault String := do
  return String.ofList (← d.chars style)

end Datum

end CachePolicy
