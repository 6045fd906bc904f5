import CachePolicy.Text.Digits

/-!
# Dates and times of day

Dates are those of the Gregorian calendar carried on to every year, with a year zero in
front of the year one.  A time may carry the offset of its zone in seconds east of the
universal time; two times that both do are compared after subtracting it.
-/

namespace CachePolicy

/-! ## Dates -/

structure Date where
  year : Int
  month : Nat
  day : Nat
  deriving DecidableEq, Repr

def isLeapYear (year : Int) : Bool :=
  year % 4 == 0 && (year % 100 != 0 || year % 400 == 0)

def daysInMonth (year : Int) (month : Nat) : Nat :=
  if month = 2 then (if isLeapYear year then 29 else 28)
  else if month = 4 || month = 6 || month = 9 || month = 11 then 30
  else 31

def daysBeforeMonth (year : Int) : Nat → Nat
  | 0 => 0
  | 1 => 0
  | month + 1 => daysBeforeMonth year month + daysInMonth year month

def daysBeforeYear (year : Int) : Int :=
  let past := year - 1
  365 * past + past / 4 - past / 100 + past / 400

namespace Date

def dayOfYear (d : Date) : Nat := daysBeforeMonth d.year d.month + d.day

/-- The number of a day; the first day of the year one has the number one. -/
def ordinal (d : Date) : Int := daysBeforeYear d.year + d.dayOfYear

def weekday (d : Date) : Nat := ((d.ordinal + 6) % 7).toNat

/-- Takes months off a count of days for as long as a whole month fits. -/
def splitMonths (year : Int) : Nat → Nat → Nat → Nat × Nat
  | 0, month, days => (month, days)
  | fuel + 1, month, days =>
      if daysInMonth year month ≤ days then
        splitMonths year fuel (month + 1) (days - daysInMonth year month)
      else (month, days)

/-- The date of a day number.  A cycle of 400 years has the same days each time. -/
def ofOrdinal (n : Int) : Date :=
  let cycle := (n - 1) / 146097
  let days := ((n - 1) % 146097).toNat
  let centuries := min (days / 36524) 3
  let days := days - 36524 * centuries
  let years4 := days / 1461
  let days := days % 1461
  let years := min (days / 365) 3
  let days := days - 365 * years
  let year := 400 * cycle + (100 * centuries + 4 * years4 + years + 1 : Nat)
  let (month, days) := splitMonths year 11 1 days
  ⟨year, month, days + 1⟩

/-- The year has four digits; only years from one on have such a text. -/
def isoText (d : Date) : String :=
  paddedDecimal 4 d.year.toNat ++ "-" ++ paddedDecimal 2 d.month ++ "-" ++ paddedDecimal 2 d.day

end Date

/-! ## Times of day -/

structure TimeOfDay where
  hour : Nat
  minute : Nat
  second : Nat
  microsecond : Nat
  offset : Option Int
  deriving DecidableEq, Repr

/-- The offset of a zone as hours and minutes, with seconds when there are any. -/
def offsetText (offset : Int) : String :=
  let n := offset.natAbs
  (if offset < 0 then "-" else "+") ++ paddedDecimal 2 (n / 3600) ++ ":" ++
    paddedDecimal 2 (n / 60 % 60) ++
    (if n % 60 = 0 then "" else ":" ++ paddedDecimal 2 (n % 60))

namespace TimeOfDay

def seconds (t : TimeOfDay) : Nat := 3600 * t.hour + 60 * t.minute + t.second

def isoText (t : TimeOfDay) : String :=
  paddedDecimal 2 t.hour ++ ":" ++ paddedDecimal 2 t.minute ++ ":" ++ paddedDecimal 2 t.second ++
    (if t.microsecond = 0 then "" else "." ++ paddedDecimal 6 t.microsecond) ++
    (match t.offset with
      | none => ""
      | some offset => offsetText offset)

/-- Times with an offset are equal when they fall on the same moment of a day; a time with an
offset never equals one without. -/
def same (s t : TimeOfDay) : Bool :=
  match s.offset, t.offset with
  | none, none => s = t
  | some a, some b => (s.seconds : Int) - a = t.seconds - b && s.microsecond == t.microsecond
  | _, _ => false

end TimeOfDay

/-! ## Dates with a time of day -/

structure DateTime where
  date : Date
  time : TimeOfDay
  deriving DecidableEq, Repr

namespace DateTime

def isoText (d : DateTime) : String := d.date.isoText ++ "T" ++ d.time.isoText

def spacedText (d : DateTime) : String := d.date.isoText ++ " " ++ d.time.isoText

def seconds (d : DateTime) : Int := 86400 * d.date.ordinal + d.time.seconds

def same (s t : DateTime) : Bool :=
  match s.time.offset, t.time.offset with
  | none, none => s = t
  | some a, some b => s.seconds - a = t.seconds - b && s.time.microsecond == t.time.microsecond
  | _, _ => false

/-- The moment a number of seconds after the start of 1970, or before it, without an offset. -/
def ofUnixSeconds (n : Int) : DateTime :=
  let day := n / 86400
  let second := (n % 86400).toNat
  ⟨Date.ofOrdinal (day + 719163),
    ⟨second / 3600, second / 60 % 60, second % 60, 0, none⟩⟩

end DateTime

end CachePolicy
