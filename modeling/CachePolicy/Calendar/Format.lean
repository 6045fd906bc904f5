import CachePolicy.Calendar.Basic
import CachePolicy.Text.Capital

/-!
# Formatted times

A format is a text with directives of a percent sign and a letter.  Between the two may
stand flags, a least width and a modifier.  Each directive is replaced by a part of the
time; all else, a directive that is not known included, is kept.  Names are English, and
times are in the universal zone.
-/

namespace CachePolicy

def weekdayNames : List String :=
  ["Monday", "Tuesday", "Wednesday", "Thursday", "Friday", "Saturday", "Sunday"]

def monthNames : List String :=
  ["January", "February", "March", "April", "May", "June", "July", "August", "September",
    "October", "November", "December"]

namespace DateTime

def weekdayName (d : DateTime) : String := (weekdayNames[d.date.weekday]?).getD ""

def monthName (d : DateTime) : String := (monthNames[d.date.month - 1]?).getD ""

def shortName (name : String) : String := String.ofList (name.toList.take 3)

def faceHour (d : DateTime) : Nat := if d.time.hour % 12 = 0 then 12 else d.time.hour % 12

def halfDay (d : DateTime) : String := if d.time.hour < 12 then "AM" else "PM"

/-- The Thursday of the week, whose year the week belongs to. -/
def weekThursday (d : DateTime) : Date := .ofOrdinal (d.date.ordinal + 3 - d.date.weekday)

/-- The week of the year when weeks begin on the given weekday and the first is a whole one. -/
def weekFrom (d : DateTime) (firstWeekday : Nat) : Nat :=
  (d.date.dayOfYear + 6 - (d.date.weekday + 7 - firstWeekday) % 7) / 7

def spacePadded (n : Nat) : String := String.ofList (padLeft 2 ' ' (decimalDigits n))

def dayText (d : DateTime) : String :=
  integerText d.date.year ++ "-" ++ paddedDecimal 2 d.date.month ++ "-" ++
    paddedDecimal 2 d.date.day

def clockText (d : DateTime) : String :=
  paddedDecimal 2 d.time.hour ++ ":" ++ paddedDecimal 2 d.time.minute ++ ":" ++
    paddedDecimal 2 d.time.second

def slashedText (d : DateTime) : String :=
  paddedDecimal 2 d.date.month ++ "/" ++ paddedDecimal 2 d.date.day ++ "/" ++
    paddedDecimal 2 (d.date.year % 100).toNat

def unixSeconds (d : DateTime) : Int := d.seconds - 86400 * 719163

end DateTime

/-! ## Parts of a time -/

/-- What a directive stands for.  A number has a least count of places, of which its sign takes
one, and may be filled with blanks; a name becomes large, and a mark small, when its case is
changed.  The sign and the digits of the zone are each filled up on their own. -/
inductive TimePart where
  | number (places : Nat) (blank : Bool) (n : Int)
  | name (text : String)
  | mark (text : String)
  | fixed (text : String)
  | zone
  deriving DecidableEq, Repr

namespace DateTime

def part? (d : DateTime) : Char → Option TimePart
  | 'Y' => some (.number 1 false d.date.year)
  | 'y' => some (.number 2 false (d.date.year % 100))
  | 'C' => some (.number 1 false (d.date.year / 100))
  | 'm' => some (.number 2 false d.date.month)
  | 'd' => some (.number 2 false d.date.day)
  | 'e' => some (.number 2 true d.date.day)
  | 'j' => some (.number 3 false d.date.dayOfYear)
  | 'H' => some (.number 2 false d.time.hour)
  | 'k' => some (.number 2 true d.time.hour)
  | 'I' => some (.number 2 false d.faceHour)
  | 'l' => some (.number 2 true d.faceHour)
  | 'M' => some (.number 2 false d.time.minute)
  | 'S' => some (.number 2 false d.time.second)
  | 'u' => some (.number 1 false (d.date.weekday + 1))
  | 'w' => some (.number 1 false ((d.date.weekday + 1) % 7))
  | 'U' => some (.number 2 false (d.weekFrom 6))
  | 'W' => some (.number 2 false (d.weekFrom 0))
  | 'V' => some (.number 2 false ((d.weekThursday.dayOfYear - 1) / 7 + 1))
  | 'G' => some (.number 1 false d.weekThursday.year)
  | 'g' => some (.number 2 false (d.weekThursday.year % 100))
  | 's' => some (.fixed (integerText d.unixSeconds))
  | 'a' => some (.name (shortName d.weekdayName))
  | 'A' => some (.name d.weekdayName)
  | 'b' | 'h' => some (.name (shortName d.monthName))
  | 'B' => some (.name d.monthName)
  | 'p' => some (.mark d.halfDay)
  | 'P' => some (.fixed (String.ofList (d.halfDay.toList.map Char.toLower)))
  | 'Z' => some (.mark "UTC")
  | 'z' => some .zone
  | 'F' => some (.fixed d.dayText)
  | 'T' | 'X' => some (.fixed d.clockText)
  | 'R' => some (.fixed (paddedDecimal 2 d.time.hour ++ ":" ++ paddedDecimal 2 d.time.minute))
  | 'r' => some (.fixed (paddedDecimal 2 d.faceHour ++ ":" ++ paddedDecimal 2 d.time.minute ++
      ":" ++ paddedDecimal 2 d.time.second ++ " " ++ d.halfDay))
  | 'D' | 'x' => some (.fixed d.slashedText)
  | 'c' => some (.fixed (shortName d.weekdayName ++ " " ++ shortName d.monthName ++ " " ++
      spacePadded d.date.day ++ " " ++ d.clockText ++ " " ++ integerText d.date.year))
  | 'n' => some (.fixed "\n")
  | 't' => some (.fixed "\t")
  | '%' => some (.fixed "%")
  | _ => none

end DateTime

/-! ## Directives -/

structure Directive where
  flags : List Char
  width : List Char
  modifier : List Char
  letter : List Char
  deriving DecidableEq, Repr

namespace Directive

def isFlag (c : Char) : Bool := c = '_' || c = '-' || c = '0' || c = '^' || c = '#'

def isModifier (c : Char) : Bool := c = 'E' || c = 'O'

/-- Reads what stands behind a percent sign. -/
def read (cs : List Char) : Directive :=
  let flags := cs.takeWhile isFlag
  let (width, rest) := spanDigits (cs.dropWhile isFlag)
  let modifier := (rest.take 1).filter isModifier
  ⟨flags, width, modifier, (rest.drop modifier.length).take 1⟩

def chars (d : Directive) : List Char := d.flags ++ d.width ++ d.modifier ++ d.letter

/-- The letters that go with a modifier. -/
def permits (modifier letter : Char) : Bool :=
  if modifier = 'E' then "cCxXyYpPrRsTuzZnt".toList.contains letter
  else !"%aADFcXxY".toList.contains letter

/-- The part of a time that is asked for, if the directive is a known one. -/
def part? (d : Directive) (time : DateTime) : Option TimePart :=
  match d.modifier, d.letter with
  | [], [letter] => time.part? letter
  | [modifier], [letter] => if permits modifier letter then time.part? letter else none
  | _, _ => none

/-- The last flag about filling counts. -/
def fill? (d : Directive) : Option Char :=
  d.flags.reverse.find? fun c => c = '_' || c = '-' || c = '0'

/-- A width that no text has room for is as good as any greater one. -/
def widthLimit : Nat := Nat.pow 2 20

def leastWidth (d : Directive) : Nat := min ((readNat? d.width).getD 0) widthLimit

/-- Blanks stand in front of the sign, and zeros behind it. -/
def numberChars (d : Directive) (places : Nat) (blank : Bool) (n : Int) : List Char :=
  let sign := if n < 0 then ['-'] else []
  let body := decimalDigits n.natAbs
  let places := max places d.leastWidth
  match d.fill?.getD (if blank then '_' else '0') with
  | '_' => padLeft places ' ' (sign ++ body)
  | '-' => sign ++ body
  | _ => sign ++ padLeft (places - sign.length) '0' body

def filled (d : Directive) (cs : List Char) : List Char :=
  padLeft d.leastWidth (if d.fill? = some '0' then '0' else ' ') cs

/-- Whether the letters of a part are made large.  A directive for a month is so before it is
asked whether its modifier is a permitted one. -/
def isRaised (d : Directive) : Option TimePart → Bool
  | some (.mark _) => d.flags.contains '^' && !d.flags.contains '#'
  | some (.name _) => d.flags.contains '^' || d.flags.contains '#'
  | some _ => d.flags.contains '^' && d.letter ≠ ['P']
  | none => d.flags.contains '^' ||
      (d.flags.contains '#' && (d.letter = ['b'] || d.letter = ['h']))

def partChars (d : Directive) : TimePart → List Char
  | .number places blank n => d.numberChars places blank n
  | .name text | .fixed text => text.toList
  | .mark text => if d.flags.contains '#' then text.toList.map Char.toLower else text.toList
  | .zone => d.filled ['+'] ++ d.filled (d.numberChars 4 false 0)

/-- The text of a directive.  One that is not known is kept from its last percent sign on. -/
def formatted (d : Directive) (time : DateTime) : List Char :=
  let part := d.part? time
  let body :=
    match part with
    | some part => d.partChars part
    | none => if d.letter = ['%'] then ['%'] else '%' :: d.chars
  d.filled (if d.isRaised part then body.map capital else body)

end Directive

namespace DateTime

/-- Writes a format, of which the first few characters belong to a directive already written. -/
def formatChars (d : DateTime) : Nat → List Char → List Char
  | _, [] => []
  | skip + 1, _ :: rest => formatChars d skip rest
  | 0, '%' :: rest =>
      let directive := Directive.read rest
      directive.formatted d ++ formatChars d directive.chars.length rest
  | 0, c :: rest => c :: formatChars d 0 rest

/-- The room for a formatted time: the first power of two that gives 256 places for each character
of the format, and at least 1024. -/
def room (form : String) : Nat :=
  if form.length ≤ 4 then 1024 else Nat.pow 2 ((256 * form.length - 1).log2 + 1)

/-- A text that fills its room is dropped. -/
def format (d : DateTime) (form : String) : String :=
  let cs := d.formatChars 0 form.toList
  if cs.length < room form then String.ofList cs else ""

end DateTime

end CachePolicy
