import CachePolicy.Number.Shortest
import CachePolicy.Value.Member
import CachePolicy.Value.Refusal

/-!
# Texts of values

A value has two texts: `shown`, which tells values of different kinds apart, and
`display`, which a reader sees.  They differ for texts, dates, decimals, members of
enumerations and opaque objects.  An integer of more than 4300 digits has neither, and
neither has a record that refuses to be read.
-/

namespace CachePolicy

def joined (separator : String) (parts : List String) : String :=
  separator.intercalate parts

/-- The least magnitude that has too many digits to be written out. -/
def integerTextLimit : Nat := Nat.pow 10 digitLimit

def limitedIntegerText (n : Int) : Except Fault String :=
  if integerTextLimit ≤ n.natAbs then .error .integerTooLong else .ok (integerText n)

/-- The place in memory of an object is not part of its text. -/
def placedText (cls : String) : String := "<" ++ cls ++ " object at 0xADDR>"

def lockText : String := "<unlocked _thread.lock object at 0xADDR>"

/-! ## Dates and times -/

/-- The parts of a duration that are not zero. -/
def shownDuration (days seconds microseconds : Int) : String :=
  let parts := [("days=", days), ("seconds=", seconds), ("microseconds=", microseconds)].filter
    fun part => part.2 ≠ 0
  "datetime.timedelta(" ++
    (if parts.isEmpty then "0"
      else joined ", " (parts.map fun part => part.1 ++ integerText part.2)) ++ ")"

/-- An offset from the universal time, split into days and the seconds of a day. -/
def shownOffset (offset : Int) : String :=
  if offset = 0 then "datetime.timezone.utc"
  else "datetime.timezone(" ++ shownDuration (offset / 86400) (offset % 86400) 0 ++ ")"

/-- The arguments of a time, without a second and a microsecond that are zero. -/
def shownTimeParts (t : TimeOfDay) : List String :=
  let numbers : List Nat :=
    if t.microsecond ≠ 0 then [t.hour, t.minute, t.second, t.microsecond]
    else if t.second ≠ 0 then [t.hour, t.minute, t.second]
    else [t.hour, t.minute]
  numbers.map (fun (n : Nat) => integerText n) ++
    (match t.offset with
      | none => []
      | some offset => ["tzinfo=" ++ shownOffset offset])

def shownDateParts (d : Date) : List String :=
  [integerText d.year, integerText d.month, integerText d.day]

namespace Scalar

def shown : Scalar → Except Fault String
  | null => .ok "None"
  | flag b => .ok (if b then "True" else "False")
  | int n => limitedIntegerText n
  | float x => .ok x.text
  | decimal x => .ok ("Decimal(" ++ quoted x.text ++ ")")
  | uuid digits => .ok ("UUID(" ++ quoted digits ++ ")")
  | text s => .ok (quoted s)
  | bytes octets => .ok (quotedOctets octets)
  | buffer octets => .ok ("bytearray(" ++ quotedBuffer octets ++ ")")
  | date d => .ok ("datetime.date(" ++ joined ", " (shownDateParts d) ++ ")")
  | dateTime d => .ok ("datetime.datetime(" ++
      joined ", " (shownDateParts d.date ++ shownTimeParts d.time) ++ ")")
  | time t => .ok ("datetime.time(" ++ joined ", " (shownTimeParts t) ++ ")")
  | account id tags => do
      return "Account(id=" ++ (← limitedIntegerText id) ++ ", tags=[" ++
        joined ", " (tags.map quoted) ++ "])"
  | handle id => do
      return "Handle(id=" ++ (← limitedIntegerText id) ++ ", lock=" ++ lockText ++ ")"
  | lock => .ok lockText
  | kind c => .ok c.shown
  | unset => .ok "UNSET"
  | duration microseconds => .ok (shownDuration (microseconds / 86400000000)
      (microseconds % 86400000000 / 1000000) (microseconds % 1000000))
  | zone offset => .ok (shownOffset offset)

def display : Scalar → Except Fault String
  | decimal x => .ok x.text
  | uuid digits => .ok digits
  | text s => .ok s
  | date d => .ok d.isoText
  | dateTime d => .ok d.spacedText
  | time t => .ok t.isoText
  | account id tags => do
      return "id=" ++ (← limitedIntegerText id) ++ " tags=[" ++
        joined ", " (tags.map quoted) ++ "]"
  | handle id => do return "id=" ++ (← limitedIntegerText id) ++ " lock=" ++ lockText
  | s => s.shown

end Scalar

/-! ## Compound values -/

/-- A tuple of one element keeps a comma behind it. -/
def tupleText : List String → String
  | [part] => "(" ++ part ++ ",)"
  | parts => "(" ++ joined ", " parts ++ ")"

def setText (frozen : Bool) (parts : List String) : String :=
  match frozen, parts with
  | false, [] => "set()"
  | true, [] => "frozenset()"
  | false, parts => "\x7b" ++ joined ", " parts ++ "\x7d"
  | true, parts => "frozenset(\x7b" ++ joined ", " parts ++ "\x7d)"

def recordText (cls : String) (parts : List String) : String :=
  cls ++ "(" ++ joined ", " parts ++ ")"

def StatusMark.shown : StatusMark → String
  | .known .hit => "<LookupStatus.HIT: 'hit'>"
  | .known .miss => "<LookupStatus.MISS: 'miss'>"
  | .known .unavailable => "<LookupStatus.UNAVAILABLE: 'unavailable'>"
  | .spelled name => quoted name

/-- What a member that is also a scalar shows of its value, which has to be of the kind of its
content. -/
def Mixin.shownValue (mixin : Mixin) (value : Value) : Except Fault String :=
  match mixin, value.unwrapped with
  | int _, .flag b => .ok (integerText b.toNat)
  | int _, .int n => limitedIntegerText n
  | text _, .text s => .ok (quoted s)
  | float _, .scalar (.float x) => .ok x.text
  | mixin, _ => .error (.textMismatch
      ((mixin.content?.map Scalar.ownClass).getD .object).name value.ownClass.name)

mutual

def Value.shown : Value → (refusals : Refusals := []) → Except Fault String
  | .scalar s, _ => s.shown
  | .list items, _ => do return "[" ++ joined ", " (← shownItems items) ++ "]"
  | .tuple items, _ => do return tupleText (← shownItems items)
  | .set frozen items, _ => do return setText frozen (← shownItems items)
  | .dict readOnly entries, _ => do
      let body := "\x7b" ++ joined ", " (← shownEntries entries) ++ "\x7d"
      return if readOnly then "mappingproxy(" ++ body ++ ")" else body
  | .member mixin cls name value, _ => do
      let words ← if mixin = .plain then value.shown else mixin.shownValue value
      return "<" ++ cls ++ "." ++ name ++ ": " ++ words ++ ">"
  | .data cls fields missing, refusals => do
      let parts ← shownFields fields refusals
      match missing with
      | [] => return recordText cls parts
      | name :: _ => throw (refusals.missingFault cls name)
  | .named cls fields, _ => do return recordText cls (← shownFields fields)
  | .object _ _ _ _ .absent, _ => .ok (placedText Class.opaqueObject.qualifiedName)
  | .object _ _ _ _ _, _ => .ok (placedText Class.model.qualifiedName)
  | .lookup status value, _ => do
      return recordText "Lookup" ["status=" ++ status.shown, "value=" ++ (← value.shown)]
  | .pattern p, _ => p.shown
  | .known cls _, _ => .ok (placedText cls.qualifiedName)
  | .refusing more value, refusals => value.shown (refusals ++ more)

def Pattern.shown : Pattern → Except Fault String
  | .any => .ok "ANY"
  | .exact value => do return recordText "Exact" ["value=" ++ (← value.shown)]
  | .shape elements => do
      return recordText "Shape" ["elements=" ++ tupleText (← shownPatterns elements)]
  | .record cls fields => do
      return recordText "Record"
        ["cls=" ++ cls.shown, "fields=" ++ tupleText (← shownMatchers fields)]
  | .abstract => .ok (placedText Class.pattern.qualifiedName)

def shownItems : List Value → Except Fault (List String)
  | [] => .ok []
  | v :: rest => do return (← v.shown) :: (← shownItems rest)

def shownEntries : List (Value × Value) → Except Fault (List String)
  | [] => .ok []
  | (k, v) :: rest => do
      return ((← k.shown) ++ ": " ++ (← v.shown)) :: (← shownEntries rest)

/-- Each field is read just before it is shown. -/
def shownFields :
    List (String × Value) → (refusals : Refusals := []) → Except Fault (List String)
  | [], _ => .ok []
  | (name, v) :: rest, refusals => do
      refusals.allow (.attribute name)
      return (name ++ "=" ++ (← v.shown)) :: (← shownFields rest refusals)

def shownPatterns : List Pattern → Except Fault (List String)
  | [] => .ok []
  | p :: rest => do return (← p.shown) :: (← shownPatterns rest)

def shownMatchers : List (String × Pattern) → Except Fault (List String)
  | [] => .ok []
  | (name, p) :: rest => do
      return tupleText [quoted name, ← p.shown] :: (← shownMatchers rest)

end

namespace Value

def display : Value → (refusals : Refusals := []) → Except Fault String
  | .scalar s, _ => s.display
  | .dict true entries, _ => (Value.dict false entries).shown
  | .member (.int n) _ _ _, _ => limitedIntegerText n
  | .member (.text s) _ _ _, _ => .ok s
  | .member _ cls name _, _ => .ok (cls ++ "." ++ name)
  | .object (some words) _ _ _ _, _ => .ok words
  | .object none _ _ _ _, _ => .error .textRefused
  | .refusing more value, refusals => value.display (refusals ++ more)
  | v, refusals => v.shown refusals

/-- The display of a value, or its class and place when it has none. -/
def displayOrPlace (v : Value) : String :=
  match v.display with
  | .ok words => words
  | .error _ => placedText v.ownClass.qualifiedName

end Value

/-- A failure raised with values: a single one is displayed, several are shown as a tuple. -/
def Failure.ofValues (kind : FailureKind) (values : List Value) : Except Fault Failure := do
  let argument ← match values with
    | [] => pure none
    | [v] => some <$> v.display
    | values => some <$> (Value.tuple values).shown
  return .mk kind argument none none false

end CachePolicy
