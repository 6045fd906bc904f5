import CachePolicy.Proofs.Pattern.Breaking

/-!
# Fields of records in patterns

A record pattern reads its fields as items of a mapping or as attributes.  Declared is that
the class in the pattern decides which; in fact the value decides.  The two rules agree
unless a record of a class that is no class of mappings meets a mapping.  Then items stand
in for the attributes, at whatever depth of the pattern this is.
-/

namespace CachePolicy

/-! ## Mappings -/

namespace Class

theorem isBelow_mapping_iff {c : Class} :
    c.isBelow .mapping = true ↔ c = .mapping ∨ c = .dict ∨ c = .view := by
  have named : .mapping ∈ c.lineage ↔ c = .mapping := by
    unfold lineage
    split <;> simp [collectionLineage, eq_comm]
  simp [isBelow, named]

theorem isBelow_mapping_of_isBelow {c above : Class} (below : c.isBelow above = true)
    (mappings : above.isBelow .mapping = true) : c.isBelow .mapping = true := by
  have only : ∀ d, d = .dict ∨ d = .view → c.lineage.contains d = true → c = d := by
    intro d listed
    unfold lineage
    rcases listed with rfl | rfl <;> split <;> simp_all [collectionLineage]
  rcases isBelow_mapping_iff.mp mappings with rfl | rfl | rfl
  · exact below
  · have same := only .dict (.inl rfl) (by simpa [isBelow] using below)
    exact isBelow_mapping_iff.mpr (.inr (.inl same))
  · have same := only .view (.inr rfl) (by simpa [isBelow] using below)
    exact isBelow_mapping_iff.mpr (.inr (.inr same))

end Class

namespace Value

variable {v field : Value} {name : String}

theorem isSome_entries? (v : Value) : v.entries?.isSome = v.isA .mapping := by
  induction v using Value.inductRefusing with
  | refusing more value ih => exact ih
  | known c parts => simp only [entries?, isA, ownClass]; split <;> simp_all
  | dict readOnly entries => cases readOnly <;> rfl
  | set frozen items => cases frozen <;> rfl
  | member mixin cls name value => cases mixin <;> rfl
  | object text attributes equality untestable dump => cases dump <;> rfl
  | pattern p => cases p <;> rfl
  | scalar s =>
      cases s with
      | kind c =>
          simp only [isA, ownClass, Scalar.ownClass, Class.above]
          split <;> rfl
      | _ => rfl
  | _ => rfl

/-- The item that is found in a mapping under a name, unless the mapping refuses to look. -/
def item? (v : Value) (name : String) : Option Value :=
  v.entries?.bind fun entries =>
    if (v.refused? (.item name)).isSome then none
    else (entries.find? fun entry => entry.1.sameKey (.text name)).map (·.2)

/-- The value has this field under the name, as an item or else as an attribute. -/
def Gives (v : Value) (asItem : Bool) (name : String) (field : Value) : Prop :=
  if asItem then v.item? name = some field else v.attribute? name = .ok (some field)

theorem field?_eq_some_iff :
    v.field? name = .ok (some field) ↔ v.Gives (v.isA .mapping) name field := by
  rw [← isSome_entries?, Gives, field?, item?]
  cases v.entries? with
  | none => simp
  | some entries => cases v.refused? (.item name) <;> simp

end Value

/-! ## Rules for reading fields -/

/-- Whether the fields of a record of a class are read as items of a value. -/
abbrev FieldRule := Class → Value → Bool

def FieldRule.byClass : FieldRule := fun cls _ => cls.isBelow .mapping

def FieldRule.byValue : FieldRule := fun _ v => v.isA .mapping

mutual

/-- The pattern holds of the value if fields are read by the rule. -/
def Pattern.Follows (rule : FieldRule) : Pattern → Value → Prop
  | .any, _ => True
  | .exact expected, v => exactlyEqual expected v = true
  | .shape elements, v => ∃ items, v.tupleItems? = some items ∧ ElementsFollow rule elements items
  | .record cls fields, v => v.isA cls = true ∧ FieldsFollow rule cls fields v
  | .abstract, _ => False

def ElementsFollow (rule : FieldRule) : List Pattern → List Value → Prop
  | [], [] => True
  | p :: ps, v :: vs => p.Follows rule v ∧ ElementsFollow rule ps vs
  | _, _ => False

def FieldsFollow (rule : FieldRule) (cls : Class) : List (String × Pattern) → Value → Prop
  | [], _ => True
  | (name, p) :: rest, v =>
      (∃ field, v.Gives (rule cls v) name field ∧ p.Follows rule field) ∧
        FieldsFollow rule cls rest v

end

variable {rule : FieldRule} {cls : Class} {fields : List (String × Pattern)} {v : Value}

theorem fieldsFollow_iff : FieldsFollow rule cls fields v ↔
    ∀ entry ∈ fields, ∃ field, v.Gives (rule cls v) entry.1 field ∧ entry.2.Follows rule field := by
  induction fields with
  | nil => simp [FieldsFollow]
  | cons entry rest ih => rw [FieldsFollow, ih, List.forall_mem_cons]

namespace Pattern

theorem follows_record_iff : (record cls fields).Follows rule v ↔ v.isA cls = true ∧
    ∀ entry ∈ fields, ∃ field, v.Gives (rule cls v) entry.1 field ∧ entry.2.Follows rule field := by
  rw [Follows, fieldsFollow_iff]

/-- While the first pattern is matched with the first value, the second pattern may come to be
matched with the second value. -/
inductive Meets : Pattern → Value → Pattern → Value → Prop
  | here (p : Pattern) (v : Value) : Meets p v p v
  | element {elements : List Pattern} {items : List Value} {v x w : Value} {p q : Pattern}
      (tuple : v.tupleItems? = some items) (paired : (p, x) ∈ elements.zip items)
      (meets : Meets p x q w) : Meets (.shape elements) v q w
  | field {cls : Class} {fields : List (String × Pattern)} {v x w : Value} {name : String}
      {p q : Pattern} (listed : (name, p) ∈ fields) (read : v.field? name = .ok (some x))
      (meets : Meets p x q w) : Meets (.record cls fields) v q w

/-- Wherever the pattern comes to a record, the rule reads the fields as they are read. -/
def Obeys (rule : FieldRule) (p : Pattern) (v : Value) : Prop :=
  ∀ cls fields w, p.Meets v (.record cls fields) w → fields ≠ [] → w.isA cls = true →
    rule cls w = w.isA .mapping

/-- Somewhere a record of a class that is no class of mappings reads fields of a mapping. -/
def Crosses (p : Pattern) (v : Value) : Prop :=
  ∃ cls fields w, p.Meets v (.record cls fields) w ∧ fields ≠ [] ∧ w.isA cls = true ∧
    w.isA .mapping = true ∧ cls.isBelow .mapping = false

theorem obeys_byValue (p : Pattern) (v : Value) : p.Obeys .byValue v := fun _ _ _ _ _ _ => rfl

theorem obeys_byClass {p : Pattern} (straight : ¬ p.Crosses v) : p.Obeys .byClass v := by
  intro cls fields w meets some belongs
  show cls.isBelow .mapping = w.isA .mapping
  cases mappings : cls.isBelow .mapping with
  | true => exact (Class.isBelow_mapping_of_isBelow belongs mappings).symm
  | false =>
      cases mapping : w.isA .mapping with
      | false => rfl
      | true => exact absurd ⟨cls, fields, w, meets, some, belongs, mapping, mappings⟩ straight

/-- No value that the pattern comes to refuses a field that is read from it. -/
def Readable (p : Pattern) (v : Value) : Prop :=
  ∀ cls fields w, p.Meets v (.record cls fields) w → ∀ entry ∈ fields,
    ∀ refusal, ¬ w.Refuses entry.1 refusal

end Pattern

/-! ## Matching follows the rule -/

mutual

theorem Pattern.matches_iff_follows (p : Pattern) (v : Value) (obeys : p.Obeys rule v) :
    p.matches v = .ok true ↔ p.Follows rule v := by
  cases p with
  | any => simp [Pattern.matches, Pattern.Follows]
  | exact expected => simp [Pattern.matches, Pattern.Follows]
  | abstract => simp [Pattern.matches, Pattern.Follows]
  | shape elements =>
      rw [Pattern.matches, Pattern.Follows]
      cases tuple : v.tupleItems? with
      | none => simp
      | some items =>
          have each := elementsMatch_iff_follow elements items fun p x paired =>
            fun cls fields w meets => obeys cls fields w (.element tuple paired meets)
          simpa using each
  | record cls fields =>
      rw [Pattern.matches, Pattern.Follows]
      by_cases belongs : v.isA cls = true
      · have each := fieldsMatch_iff_follow cls fields v
          (fun some => obeys cls fields v (.here _ _) some belongs)
          fun name p x listed read => fun cls' fields' w meets =>
            obeys cls' fields' w (.field listed read meets)
        simpa [belongs] using each
      · simp [belongs]

theorem elementsMatch_iff_follow (ps : List Pattern) (vs : List Value)
    (obey : ∀ p x, (p, x) ∈ ps.zip vs → p.Obeys rule x) :
    (if vs.length = ps.length then allMatch ps vs else .ok false) = .ok true ↔
      ElementsFollow rule ps vs := by
  cases ps with
  | nil => cases vs <;> simp [allMatch, ElementsFollow]
  | cons p ps =>
      cases vs with
      | nil => simp [ElementsFollow]
      | cons v vs =>
          have first := Pattern.matches_iff_follows p v (obey p v (by simp))
          have rest := elementsMatch_iff_follow ps vs fun q x paired =>
            obey q x (List.mem_cons_of_mem _ paired)
          rw [ElementsFollow, ← first, ← rest]
          by_cases sameLength : vs.length = ps.length
          · simp [sameLength, allMatch, andThen_eq_true_iff]
          · simp [sameLength]

theorem fieldsMatch_iff_follow (cls : Class) (fields : List (String × Pattern)) (v : Value)
    (reads : fields ≠ [] → rule cls v = v.isA .mapping)
    (obey : ∀ name p x, (name, p) ∈ fields → v.field? name = .ok (some x) → p.Obeys rule x) :
    fieldsMatch fields v = .ok true ↔ FieldsFollow rule cls fields v := by
  cases fields with
  | nil => simp [fieldsMatch, FieldsFollow]
  | cons entry rest =>
      obtain ⟨name, p⟩ := entry
      have later := fieldsMatch_iff_follow cls rest v (fun _ => reads (by simp))
        fun name p x listed => obey name p x (List.mem_cons_of_mem _ listed)
      rw [fieldsMatch, FieldsFollow, ← later, reads (by simp)]
      simp only [← Value.field?_eq_some_iff]
      cases read : v.field? name with
      | error fault => simp
      | ok held =>
          cases held with
          | none => simp
          | some field =>
              have first := Pattern.matches_iff_follows p field (obey name p field (by simp) read)
              simp [andThen_eq_true_iff, first]

end

/-- The items of a mapping are read whatever class the record asks for. -/
theorem Pattern.matches_iff_follows_byValue (p : Pattern) (v : Value) :
    p.matches v = .ok true ↔ p.Follows .byValue v :=
  p.matches_iff_follows v (p.obeys_byValue v)

/-! ## Faults of readable values -/

mutual

theorem Pattern.Breaks.eq_abstractPattern {p : Pattern} {v : Value} {fault : Fault} :
    p.Breaks v fault → p.Readable v → fault = .abstractPattern
  | .abstract _, _ => rfl
  | .shape tuple _ inner, readable =>
      inner.eq_abstractPattern fun _ _ paired => fun cls fields w meets =>
        readable cls fields w (.element tuple paired meets)
  | .record _ inner, readable =>
      inner.eq_abstractPattern (readable _ _ _ (.here _ _)) fun _ _ _ listed read =>
        fun cls fields w meets => readable cls fields w (.field listed read meets)

theorem ElementsBreak.eq_abstractPattern {ps : List Pattern} {vs : List Value} {fault : Fault} :
    ElementsBreak ps vs fault → (∀ p x, (p, x) ∈ ps.zip vs → p.Readable x) →
      fault = .abstractPattern
  | .here inner, readable => inner.eq_abstractPattern (readable _ _ List.mem_cons_self)
  | .later _ inner, readable =>
      inner.eq_abstractPattern fun p x paired => readable p x (List.mem_cons_of_mem _ paired)

theorem FieldsBreak.eq_abstractPattern {fields : List (String × Pattern)} {v : Value}
    {fault : Fault} : FieldsBreak fields v fault →
      (∀ entry ∈ fields, ∀ refusal, ¬ v.Refuses entry.1 refusal) →
      (∀ name p x, (name, p) ∈ fields → v.field? name = .ok (some x) → p.Readable x) →
        fault = .abstractPattern
  | .refused refuses, given, _ => absurd refuses (given _ List.mem_cons_self _)
  | .here found inner, _, readable =>
      inner.eq_abstractPattern (readable _ _ _ List.mem_cons_self found)
  | .later _ _ inner, given, readable =>
      inner.eq_abstractPattern (fun entry listed => given entry (List.mem_cons_of_mem _ listed))
        fun name p x listed => readable name p x (List.mem_cons_of_mem _ listed)

end

/-! ## Records -/

theorem fieldsMatch_eq_true_iff : fieldsMatch fields v = .ok true ↔
    ∀ entry ∈ fields, ∃ field, v.field? entry.1 = .ok (some field) ∧
      entry.2.matches field = .ok true := by
  induction fields with
  | nil => simp [fieldsMatch]
  | cons entry rest ih =>
      rw [fieldsMatch, List.forall_mem_cons, ← ih]
      cases read : v.field? entry.1 with
      | error fault => simp
      | ok held => cases held <;> simp [andThen_eq_true_iff]

namespace Pattern

theorem matches_record_iff : (record cls fields).matches v = .ok true ↔ v.isA cls = true ∧
    ∀ entry ∈ fields, ∃ field, v.Gives (v.isA .mapping) entry.1 field ∧
      entry.2.matches field = .ok true := by
  rw [Pattern.matches]
  simp only [← Value.field?_eq_some_iff, ← fieldsMatch_eq_true_iff]
  split <;> simp_all

/-- The class decides how the fields are read, here and in the patterns inside, unless a record
of a class that is no class of mappings meets a mapping; there the items are read. -/
theorem record_follows_class_unless_crossed (readable : (record cls fields).Readable v) :
    ((record cls fields).matches v = .ok true ↔ v.isA cls = true ∧
      ∀ entry ∈ fields, ∃ field, v.Gives (v.isA .mapping) entry.1 field ∧
        entry.2.matches field = .ok true) ∧
    (¬ (record cls fields).Crosses v →
      ((record cls fields).matches v = .ok true ↔ v.isA cls = true ∧
        ∀ entry ∈ fields, ∃ field, v.Gives (cls.isBelow .mapping) entry.1 field ∧
          entry.2.Follows .byClass field)) ∧
    ∀ fault, (record cls fields).matches v = .error fault → fault = .abstractPattern := by
  refine ⟨matches_record_iff, fun straight => ?_, fun fault failed => ?_⟩
  · rw [matches_iff_follows _ v (obeys_byClass straight)]
    exact follows_record_iff
  · have breaks := (matches_eq_error_iff _ v fault).mp failed
    exact breaks.eq_abstractPattern readable

/-- A reply is a mapping, and in it stands an object that refuses another name. -/
theorem record_follows_class_unless_crossed_reply :
    let hidden : ReadFailure := ⟨.mk .runtime (some "attr age") none none false, rfl⟩
    let ann : Value := .refusing [(.attribute "age", hidden)]
      (.object none [("name", .text "Ann")] .absent false .absent)
    let fields : List (String × Pattern) :=
      [("status", .exact (.text "ok")), ("user", record .object [("name", .exact (.text "Ann"))])]
    let reply : Value := .dict false [(.text "status", .text "ok"), (.text "user", ann)]
    (record .dict fields).Readable reply ∧ ¬ (record .dict fields).Crosses reply ∧
      (record .dict fields).matches reply = .ok true ∧
      ∀ entry ∈ fields, ∃ field, reply.Gives true entry.1 field ∧
        entry.2.Follows .byClass field := by
  intro hidden ann fields reply
  have meets : ∀ cls fields' w, (record .dict fields).Meets reply (record cls fields') w →
      cls = .dict ∧ fields' = fields ∧ w = reply ∨
        fields' = [("name", .exact (.text "Ann"))] ∧ w = ann := by
    intro cls fields' w met
    cases met with
    | here => exact .inl ⟨rfl, rfl, rfl⟩
    | @field _ _ _ x _ name p _ listed read inner =>
        rcases List.mem_cons.mp listed with same | listed
        · cases same
          cases inner
        · cases List.mem_singleton.mp listed
          have held : (.ok (some ann) : Except Fault (Option Value)) = .ok (some x) := read
          cases held
          cases inner with
          | here => exact .inr ⟨rfl, rfl⟩
          | field listed read inner =>
              cases List.mem_singleton.mp listed
              cases inner
  have readable : (record .dict fields).Readable reply := by
    intro cls fields' w met entry listed refusal refuses
    rcases meets cls fields' w met with ⟨rfl, rfl, rfl⟩ | ⟨rfl, rfl⟩
    · rcases refuses with ⟨-, refused⟩ | ⟨noMapping, -⟩
      · cases refused
      · cases noMapping
    · cases List.mem_singleton.mp listed
      rcases refuses with ⟨mapping, -⟩ | ⟨-, refused⟩
      · cases mapping
      · cases refused
  have straight : ¬ (record .dict fields).Crosses reply := by
    rintro ⟨cls, fields', w, met, -, -, mapping, other⟩
    rcases meets cls fields' w met with ⟨rfl, rfl, rfl⟩ | ⟨rfl, rfl⟩
    · exact absurd other (by decide)
    · have plain : ann.isA .mapping = false := rfl
      cases plain.symm.trans mapping
  have rule := record_follows_class_unless_crossed readable
  have matched : (record .dict fields).matches reply = .ok true := rfl
  exact ⟨readable, straight, matched, ((rule.2.1 straight).mp matched).2⟩

/-- An item is taken for an attribute, and an attribute is not seen. -/
theorem items_taken_for_attributes :
    let reply : Value := .dict false [(.text "status", .text "open")]
    let isOpen : Pattern := .record .object [("status", .exact (.text "open"))]
    let hasKeys : Pattern := .record .object [("keys", .any)]
    reply.isA .object = true ∧ Class.object.isBelow .mapping = false ∧
      (isOpen.matches reply = .ok true ∧ ¬ isOpen.Follows .byClass reply) ∧
      (hasKeys.matches reply = .ok false ∧ hasKeys.Follows .byClass reply) := by
  intro reply isOpen hasKeys
  refine ⟨rfl, rfl, ⟨rfl, fun follows => ?_⟩, rfl, ?_⟩
  · obtain ⟨-, each⟩ := follows_record_iff.mp follows
    obtain ⟨field, gives, -⟩ := each _ List.mem_cons_self
    have none : reply.attribute? "status" = .ok none := rfl
    cases none.symm.trans gives
  · refine follows_record_iff.mpr ⟨rfl, fun entry listed => ?_⟩
    cases List.mem_singleton.mp listed
    exact ⟨_, show reply.attribute? "keys" = .ok (some _) from rfl, trivial⟩

end Pattern

end CachePolicy
