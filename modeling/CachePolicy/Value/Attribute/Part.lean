import CachePolicy.Table
import CachePolicy.Value.Attribute.Bound
import CachePolicy.Value.Equality

/-!
# Parts of values

What a value holds under a name itself: the fields of a record, the components of a number
or a time, or what a member knows about its enumeration.
-/

namespace CachePolicy

/-! ## Parts of scalars -/

namespace Scalar

private def nat (n : Nat) : Option Value := some (.int n)

def integerPart? (n : Int) : String → Option Value
  | "real" | "numerator" => some (.int n)
  | "imag" => some (.int 0)
  | "denominator" => some (.int 1)
  | _ => none

def datePart? (d : Date) : String → Option Value
  | "year" => some (.int d.year)
  | "month" => nat d.month
  | "day" => nat d.day
  | _ => none

def timePart? (t : TimeOfDay) : String → Option Value
  | "hour" => nat t.hour
  | "minute" => nat t.minute
  | "second" => nat t.second
  | "microsecond" => nat t.microsecond
  | "fold" => nat 0
  | "tzinfo" => some (t.offset.elim .null fun offset => .scalar (.zone offset))
  | _ => none

/-- A duration is a number of days, which may be negative, and a rest of less than a day. -/
def durationPart? (microseconds : Int) : String → Option Value
  | "days" => some (.int (microseconds / 86400000000))
  | "seconds" => some (.int (microseconds % 86400000000 / 1000000))
  | "microseconds" => some (.int (microseconds % 1000000))
  | _ => none

/-! ### Identifiers -/

/-- The bits of an identifier from a position on, as a number. -/
def bitField (n position width : Nat) : Nat := n / Nat.pow 2 position % Nat.pow 2 width

def uuidVariant (n : Nat) : String :=
  if bitField n 63 1 = 0 then "reserved for NCS compatibility"
  else if bitField n 62 1 = 0 then "specified in RFC 4122"
  else if bitField n 61 1 = 0 then "reserved for Microsoft compatibility"
  else "reserved for future definition"

/-- The octets of an identifier with the first three fields turned round. -/
def uuidOctetsReversed (octets : List UInt8) : List UInt8 :=
  (octets.take 4).reverse ++ ((octets.drop 4).take 2).reverse ++
    ((octets.drop 6).take 2).reverse ++ octets.drop 8

def uuidPart? (digits : String) (name : String) : Option Value := do
  let hex := digits.toList.filter (· ≠ '-')
  let n ← digitsValue? hexDigitValue? 16 0 hex
  let octets ← readOctets? hex
  let low := bitField n 96 32
  let mid := bitField n 80 16
  let high := bitField n 64 16
  let clockHigh := bitField n 56 8
  let clockLow := bitField n 48 8
  let node := bitField n 0 48
  match name with
  | "hex" => some (.text (String.ofList hex))
  | "int" => nat n
  | "bytes" => some (.scalar (.bytes octets))
  | "bytes_le" => some (.scalar (.bytes (uuidOctetsReversed octets)))
  | "urn" => some (.text ("urn:uuid:" ++ digits))
  | "fields" => some (.tuple ([low, mid, high, clockHigh, clockLow, node].map
      fun (field : Nat) => .int field))
  | "time_low" => nat low
  | "time_mid" => nat mid
  | "time_hi_version" => nat high
  | "time" => nat (high % 0x1000 * 0x1000000000000 + mid * 0x100000000 + low)
  | "clock_seq_hi_variant" => nat clockHigh
  | "clock_seq_low" => nat clockLow
  | "clock_seq" => nat (clockHigh % 0x40 * 0x100 + clockLow)
  | "node" => nat node
  | "variant" => some (.text (uuidVariant n))
  | "version" => if bitField n 62 2 = 2 then nat (bitField n 76 4) else some .null
  | "is_safe" => some (.member .plain "SafeUUID" "unknown" .null)
  | "__weakref__" => some .null
  | _ => none

/-! ### Model records -/

/-- The fields of a model record, as one of the names for what it holds besides them. -/
def modelPart? (fields : Table String Value) (name : String) : Option Value :=
  match name with
  | "model_extra" | "__pydantic_extra__" | "__pydantic_private__" => some .null
  | "model_fields_set" | "__pydantic_fields_set__" | "__fields_set__" =>
      some (.set false (Value.texts (fields.map (·.1))))
  | "__dict__" => some (.dict false (fields.map fun field => (.text field.1, field.2)))
  | name => fields.get? name

def part? (s : Scalar) (name : String) : Option Value :=
  match s with
  | flag b => integerPart? b.toNat name
  | int n => integerPart? n name
  | float x =>
      match name with
      | "real" => some (.scalar (.float x))
      | "imag" => some (.scalar (.float (.zero false)))
      | _ => none
  | decimal x =>
      match name with
      | "real" => some (.scalar (.decimal x))
      | "imag" => some (.scalar (.decimal (.finite false 0 0)))
      | _ => none
  | date d => datePart? d name
  | dateTime d => (datePart? d.date name).or (timePart? d.time name)
  | time t => timePart? t name
  | duration microseconds => durationPart? microseconds name
  | account id tags =>
      modelPart? [("id", .int id), ("tags", .list (tags.map .text))] name
  | handle id => modelPart? [("id", .int id), ("lock", .scalar .lock)] name
  | uuid digits => uuidPart? digits name
  | _ => none

end Scalar

/-! ## Parts of other values -/

def LookupStatus.memberName : LookupStatus → String
  | hit => "HIT"
  | miss => "MISS"
  | unavailable => "UNAVAILABLE"

def StatusMark.value : StatusMark → Value
  | .known status => .member (.text status.name) "LookupStatus" status.memberName
      (.text status.name)
  | .spelled name => .text name

/-- A lookup answers with its value if it is a proper hit of something. -/
def isFound (status : StatusMark) (value : Value) : Bool :=
  status = .known .hit && !value.isNull

def Pattern.fields : Pattern → Table String Value
  | exact value => [("value", value)]
  | shape elements => [("elements", .tuple (elements.map .pattern))]
  | record cls fields =>
      [("cls", .kind cls), ("fields", .tuple (fields.map fun field =>
        .tuple [.text field.1, .pattern field.2]))]
  | any | abstract => []

namespace Value

/-- The fields of a record, with a name for all of them. -/
def recordPart? (fields : Table String Value) (name : String) : Option Value :=
  match name with
  | "__dict__" => some (.dict false (fields.map fun field => (.text field.1, field.2)))
  | "__weakref__" => some .null
  | name => fields.get? name

/-- The members of the enumeration of a member, by name.  Of most enumerations only one is known. -/
def fellowMembers (mixin : Mixin) (cls memberName : String) (value : Value) :
    List (String × Value) :=
  match mixin, cls with
  | .text _, "LookupStatus" =>
      [LookupStatus.hit, .miss, .unavailable].map fun status =>
        (status.memberName, StatusMark.value (.known status))
  | .plain, "SafeUUID" =>
      [("safe", int 0), ("unsafe", int (-1)), ("unknown", null)].map fun entry =>
        (entry.1, member .plain "SafeUUID" entry.1 entry.2)
  | _, _ => [(memberName, member mixin cls memberName value)]

def memberValue : Value → Value
  | member _ _ _ value => value
  | v => v

/-- What a member tells about itself and about its enumeration. -/
def memberPart? (mixin : Mixin) (cls memberName : String) (value : Value) (name : String) :
    Option Value :=
  let kind := mixin.kind
  let fellows := fellowMembers mixin cls memberName value
  let position := int (fellows.findIdx (·.1 = memberName))
  match name with
  | "name" | "_name_" => some (.text memberName)
  | "value" | "_value_" => some value
  | "_member_names_" => some (.list (fellows.map fun entry => .text entry.1))
  | "_member_map_" => some (.directory fellows)
  | "_value2member_map_" =>
      some (.dict false (fellows.map fun entry => (entry.2.memberValue, entry.2)))
  | "_unhashable_values_" => some (.list [])
  | "_member_type_" => some (.kind (Class.memberValue kind))
  | "_use_args_" => some (.flag (kind ≠ .plain))
  | "_value_repr_" => if kind = .plain then some .null else none
  | "_sort_order_" => some position
  | "__objclass__" => some (.kind (.members kind cls))
  | "__dict__" =>
      some (.directory [("_value_", value), ("_name_", .text memberName),
        ("__objclass__", .kind (.members kind cls)), ("_sort_order_", position)])
  | "__weakref__" => if kind = .int then none else some .null
  | name =>
      (Table.get? fellows name).or (mixin.content?.bind (·.part? name))

def part? (v : Value) (name : String) : Option Value :=
  match v.bare with
  | scalar s => s.part? name
  | member mixin cls memberName value => memberPart? mixin cls memberName value name
  | data _ fields _ => recordPart? fields name
  | named _ fields => Table.get? fields name
  | object _ attributes _ _ _ => recordPart? attributes name
  | lookup status value =>
      if name = "found" then some (.flag (isFound status value))
      else recordPart? [("status", status.value), ("value", value)] name
  | pattern .abstract => none
  | pattern p => recordPart? p.fields name
  | known _ parts => Table.get? parts name
  | _ => none

end Value

end CachePolicy
