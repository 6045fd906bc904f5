import CachePolicy.Proofs.Key.Faults
import CachePolicy.Proofs.Key.Reduction

/-!
# Normal forms

What a value is reduced to is a normal form: it is plain, it is reduced to itself, and an
encoder writes it without its fallback, unless it holds an integer with too many digits.
The plain form of the value is the data of its normal form.
-/

namespace CachePolicy

/-! ## Data of the results -/

mutual

/-- Every record in the value declares each of its fields once, as all classes do.  Keys do not
matter, as they are known by their fragments. -/
inductive Value.Declared : Value → Prop
  | scalar (s : Scalar) : Value.Declared (.scalar s)
  | list {items : List Value} (each : ∀ v ∈ items, v.Declared) : Value.Declared (.list items)
  | tuple {items : List Value} (each : ∀ v ∈ items, v.Declared) : Value.Declared (.tuple items)
  | set {frozen : Bool} {items : List Value} (each : ∀ v ∈ items, v.Declared) :
      Value.Declared (.set frozen items)
  | dict {readOnly : Bool} {entries : List (Value × Value)}
      (each : ∀ entry ∈ entries, entry.2.Declared) : Value.Declared (.dict readOnly entries)
  | member {mixin : Mixin} {cls name : String} {value : Value} (part : value.Declared) :
      Value.Declared (.member mixin cls name value)
  | data {cls : String} {fields : Table String Value} {missing : List String}
      (distinct : (fields.map Prod.fst ++ missing).Nodup)
      (each : ∀ field ∈ fields, field.2.Declared) : Value.Declared (.data cls fields missing)
  | named {cls : String} {fields : Table String Value}
      (each : ∀ field ∈ fields, field.2.Declared) : Value.Declared (.named cls fields)
  | object {words : Option String} {attributes : List (String × Value)} {equality : Hook Value}
      {untestable : Bool} {dump : Hook Value} (dumped : ∀ v, dump = .gives v → v.Declared) :
      Value.Declared (.object words attributes equality untestable dump)
  | lookup {status : StatusMark} {value : Value} (part : value.Declared) :
      Value.Declared (.lookup status value)
  | pattern {p : Pattern} (part : p.Declared) : Value.Declared (.pattern p)
  | known (cls : Class) (parts : List (String × Value)) : Value.Declared (.known cls parts)
  | refusing {refusals : Refusals} {value : Value} (part : value.Declared) :
      Value.Declared (.refusing refusals value)

inductive Pattern.Declared : Pattern → Prop
  | any : Pattern.Declared .any
  | exact {value : Value} (part : value.Declared) : Pattern.Declared (.exact value)
  | shape {elements : List Pattern} (each : ∀ p ∈ elements, p.Declared) :
      Pattern.Declared (.shape elements)
  | record {cls : Class} {fields : List (String × Pattern)}
      (each : ∀ field ∈ fields, field.2.Declared) : Pattern.Declared (.record cls fields)
  | abstract : Pattern.Declared .abstract

end

namespace Value

variable {v : Value} {d : Datum} {fields : Table String Value}

theorem reducedFields_names {fallback : Fallback} {refusals : Refusals} {rs : Table String Value}
    (reduced : reducedFields fallback fields refusals = .ok rs) :
    rs.map Prod.fst = fields.map Prod.fst := by
  induction fields generalizing rs with
  | nil => cases reduced; rfl
  | cons field rest ih =>
      rw [reducedFields, Refusals.allow_bind_eq_ok_iff] at reduced
      obtain ⟨r, -, others⟩ := bind_eq_ok_iff.mp reduced.2
      obtain ⟨more, made, rfl⟩ := map_eq_ok_iff.mp others
      rw [List.map_cons, List.map_cons, ih made]

/-- The fields that were never set come last, and are null. -/
theorem isData_record {missing : List String} {members : Table String Datum}
    (distinct : (fields.map Prod.fst ++ missing).Nodup) (each : Table.Alike IsData fields members) :
    (ofFields (fields ++ missing.map fun name => (name, .null))).IsData
      (.map (members ++ missing.map fun name => (name, .null))) := by
  apply isData_ofFields_of_distinct
  · rw [Table.Distinct, List.map_append, ← each.keys, List.map_map]
    simpa [Function.comp_def] using distinct
  · apply List.rel_append each
    rw [List.forall₂_map_left_iff, List.forall₂_map_right_iff, List.forall₂_same]
    exact fun name _ => ⟨rfl, isData_of_leaf rfl⟩

theorem Settles.isData {r : Value} (settles : v.Settles r d) (fallback : Fallback)
    (refusals : Refusals) :
    Matched IsData (v.reduced fallback refusals) (v.normal false refusals) := by
  rw [settles.reduced, settles.normal]
  exact .after _ (.ok settles.data)

end Value

section

open Value

variable (fallback : Fallback)

mutual

theorem Value.reduced_isData {v : Value} (declared : v.Declared) (refusals : Refusals) :
    Matched IsData (v.reduced fallback refusals) (v.normal false refusals) := by
  cases v with
  | scalar s => exact (settles_scalar s).isData fallback refusals
  | list items =>
      cases declared with
      | list each =>
          exact .after _ ((reducedItems_isData each).map fun _ _ => isData_list)
  | tuple items =>
      cases declared with
      | tuple each =>
          exact .after _ ((reducedItems_isData each).map fun _ _ => isData_list)
  | set frozen items =>
      cases declared with
      | set each =>
          refine .after _ ((reducedItems_isData each).bind fun rs ds related => ?_)
          have sorted := matched_sortedBy (f := Value.encoded Datum.sorting fallback)
            (g := Datum.chars Datum.sorting) related fun r d data => data.encoded _ _
          exact sorted.map fun _ _ => isData_list
  | dict readOnly entries =>
      cases declared with
      | dict each =>
          exact .after _ (.after _ ((reducedEntries_isData each).map fun _ _ => isData_ofFields))
  | member mixin cls name value =>
      cases declared with
      | member part =>
          rcases member_cases mixin cls name value with ⟨d, settles⟩ | ⟨reduced, normal⟩
          · exact settles.isData fallback refusals
          · rw [reduced, normal]
            exact .after _ (Value.reduced_isData part [])
  | data cls fields missing =>
      cases declared with
      | data distinct each =>
          have names : ∀ fs, reducedFields fallback fields refusals = .ok fs →
              fs.map Prod.fst = fields.map Prod.fst := fun fs made => reducedFields_names made
          have parts := (reducedFields_isData each refusals).and_left names
          exact parts.bind fun fs members related =>
            .after _ (.ok (isData_record (by rwa [related.1]) related.2))
  | named cls fields =>
      cases declared with
      | named each =>
          rcases named_cases cls fields with ⟨r, d, settles⟩ | ⟨reduced, normal⟩
          · exact settles.isData fallback refusals
          · rw [reduced, normal]
            exact .after _ ((reducedFields_isData each []).map fun _ _ related =>
              isData_list related.values)
  | object words attributes equality untestable dump =>
      -- A dump is a part of its object, which the recursion sees only where `dump` is opened.
      have answered : ∀ dumped, dump = .gives dumped →
          Matched IsData (dumped.reduced fallback) dumped.normal := by
        cases dump with
        | gives dumped =>
            rintro _ ⟨⟩
            cases declared with
            | object part => exact Value.reduced_isData (part dumped rfl) []
        | absent | raises => exact nofun
      rcases object_cases words attributes equality untestable dump with
        ⟨r, d, settles⟩ | ⟨dumped, given, reduced, normal⟩
      · exact settles.isData fallback refusals
      · rw [reduced, normal]
        exact .after _ (answered dumped given)
  | lookup status value =>
      cases declared with
      | lookup part =>
          have mark : status.value.IsData (.text status.name) := by
            cases status <;> exact isData_of_leaf rfl
          exact (Value.reduced_isData part []).map fun r d data =>
            isData_ofFields_of_distinct (by simp [Table.Distinct])
              (.cons ⟨rfl, mark⟩ (.cons ⟨rfl, data⟩ .nil))
  | pattern p =>
      cases declared with
      | pattern part =>
          exact Pattern.reduced_isData part
  | known cls parts => exact .after _ (.ok (isData_of_leaf rfl))
  | refusing more value =>
      cases declared with
      | refusing part =>
          cases leaf : (Value.refusing more value).leaf? with
          | some d => exact (settles_of_leaf leaf).isData fallback refusals
          | none =>
              rw [reduced_refusing_of_no_leaf leaf, Value.normal]
              exact Value.reduced_isData part (refusals ++ more)

theorem Pattern.reduced_isData {p : Pattern} (declared : p.Declared) :
    Matched IsData (p.reduced fallback) p.normal := by
  cases p with
  | any => exact .ok (isData_ofFields_of_distinct .nil .nil)
  | exact value =>
      cases declared with
      | exact part =>
          exact (Value.reduced_isData part []).map fun r d data =>
            isData_ofFields_of_distinct (by simp [Table.Distinct]) (.cons ⟨rfl, data⟩ .nil)
  | shape elements =>
      cases declared with
      | shape each =>
          exact (reducedPatterns_isData each).map fun rs ds related =>
            isData_ofFields_of_distinct (by simp [Table.Distinct])
              (.cons ⟨rfl, isData_list related⟩ .nil)
  | record cls fields =>
      cases declared with
      | record each =>
          have shown : (text cls.shown).IsData (.text cls.shown) := isData_of_leaf rfl
          exact (reducedMatchers_isData each).map fun rs ds related =>
            isData_ofFields_of_distinct (by simp [Table.Distinct])
              (.cons ⟨rfl, shown⟩ (.cons ⟨rfl, isData_list related⟩ .nil))
  | abstract => exact .ok (isData_of_leaf rfl)

theorem reducedItems_isData {items : List Value} (each : ∀ v ∈ items, v.Declared) :
    Matched (List.Forall₂ IsData) (reducedItems fallback items) (normalItems items) := by
  cases items with
  | nil => exact .ok .nil
  | cons v rest =>
      rw [List.forall_mem_cons] at each
      exact (Value.reduced_isData each.1 []).cons (reducedItems_isData each.2) fun r d data => data

theorem reducedEntries_isData {entries : List (Value × Value)}
    (each : ∀ entry ∈ entries, entry.2.Declared) :
    Matched (Table.Alike IsData) (reducedEntries fallback entries) (normalEntries entries) := by
  cases entries with
  | nil => exact .ok .nil
  | cons entry rest =>
      obtain ⟨k, v⟩ := entry
      rw [List.forall_mem_cons] at each
      rw [reducedEntries, normalEntries, ← bind_assoc, ← Value.fragment]
      cases k.fragment with
      | error fault => exact .error fault
      | ok name =>
          exact (Value.reduced_isData each.1 []).cons (reducedEntries_isData each.2)
            fun r d data => ⟨rfl, data⟩

theorem reducedFields_isData {fields : List (String × Value)}
    (each : ∀ field ∈ fields, field.2.Declared) (refusals : Refusals) :
    Matched (Table.Alike IsData) (reducedFields fallback fields refusals)
      (normalFields fields refusals) := by
  cases fields with
  | nil => exact .ok .nil
  | cons field rest =>
      obtain ⟨name, v⟩ := field
      rw [List.forall_mem_cons] at each
      exact .after _ ((Value.reduced_isData each.1 []).cons (reducedFields_isData each.2 refusals)
        fun r d data => ⟨rfl, data⟩)

theorem reducedPatterns_isData {ps : List Pattern} (each : ∀ p ∈ ps, p.Declared) :
    Matched (List.Forall₂ IsData) (reducedPatterns fallback ps) (normalPatterns ps) := by
  cases ps with
  | nil => exact .ok .nil
  | cons p rest =>
      rw [List.forall_mem_cons] at each
      exact (Pattern.reduced_isData each.1).cons (reducedPatterns_isData each.2)
        fun r d data => data

theorem reducedMatchers_isData {fields : List (String × Pattern)}
    (each : ∀ field ∈ fields, field.2.Declared) :
    Matched (List.Forall₂ IsData) (reducedMatchers fallback fields) (normalMatchers fields) := by
  cases fields with
  | nil => exact .ok .nil
  | cons field rest =>
      obtain ⟨name, p⟩ := field
      rw [List.forall_mem_cons] at each
      have named : (text name).IsData (.text name) := isData_of_leaf rfl
      exact (Pattern.reduced_isData each.1).cons (reducedMatchers_isData each.2)
        fun r d data => isData_list (.cons named (.cons data .nil))

end

end

/-! ## Normal forms -/

theorem Datum.chars_eq_error_iff {style : Datum.Style} {d : Datum} {fault : Fault} :
    d.chars style = .error fault ↔ fault = .integerTooLong ∧ d.Overlong := by
  constructor
  · intro failed
    exact (d.chars_unprintable style fault failed).symm
  · rintro ⟨rfl, long⟩
    obtain ⟨fault, failed⟩ := (chars_fails_iff style d).mpr long
    rw [failed, d.chars_failsOnly style fault failed]

/-- A plain value that is reduced to itself.  An encoder writes it in every style as these data
are written, without its fallback, and fails only if they hold a number with too many digits. -/
structure Value.NormalForm (r : Value) (d : Datum) : Prop where
  plain : r.Plain
  fixed : ∀ fallback, r.reduced fallback = .ok r
  normal : r.normal = .ok d
  encoded : ∀ style fallback, r.encoded style fallback = d.chars style
  fails : ∀ style fallback fault,
    r.encoded style fallback = .error fault ↔ fault = .integerTooLong ∧ d.Overlong

namespace Value

variable {v r : Value} {fallback : Fallback}

theorem reduced_congr (v : Value) (fallback other : Fallback) :
    v.reduced fallback = v.reduced other := by
  have matched := v.reduced_samePlain fallback other []
  generalize v.reduced fallback = first, v.reduced other = second at matched ⊢
  cases matched with
  | ok same => rw [same.2]
  | error fault => rfl

theorem Plain.of_reduced (reduced : v.reduced fallback = .ok r) : r.Plain := by
  obtain ⟨s, -, plain, -⟩ := (v.reduced_samePlain fallback fallback []).eq_of_ok reduced
  exact plain

theorem reducedItems_fixed {items : List Value}
    (each : ∀ v ∈ items, v.reduced fallback = .ok v) :
    reducedItems fallback items = .ok items := by
  induction items with
  | nil => rfl
  | cons v rest ih =>
      rw [List.forall_mem_cons] at each
      rw [reducedItems, each.1, ih each.2]
      rfl

/-- The fragment of a name is the name itself. -/
theorem reducedEntries_fixed {fields : Table String Value}
    (each : ∀ field ∈ fields, field.2.reduced fallback = .ok field.2) :
    reducedEntries fallback (Signature.keywordEntries fields) = .ok fields := by
  induction fields with
  | nil => rfl
  | cons field rest ih =>
      rw [List.forall_mem_cons] at each
      have first : reducedEntries fallback (Signature.keywordEntries (field :: rest)) = (do
          return (field.1, ← field.2.reduced fallback) ::
            (← reducedEntries fallback (Signature.keywordEntries rest))) := rfl
      rw [first, each.1, ih each.2]
      rfl

theorem Plain.reduced (plain : r.Plain) (fallback : Fallback) : r.reduced fallback = .ok r := by
  induction plain with
  | leaf leaf =>
      rw [(settles_of_leaf leaf).reduced, readable, (reads_of_leaf leaf).1]
      rfl
  | list _ each =>
      rw [Value.reduced, Refusals.allow_nil_bind, reducedItems_fixed each]
      rfl
  | @dict fields distinct _ each =>
      -- No name stands twice, so nothing is lost when the fields are put once more.
      have whole : ofFields fields = .dict false (Signature.keywordEntries fields) := by
        rw [ofFields, Table.ofEntries_of_distinct distinct]
      rw [Value.reduced, Refusals.allow_nil_bind, Refusals.allow_nil_bind,
        reducedEntries_fixed each, ← whole]
      rfl

theorem Plain.normalForm (plain : r.Plain) : ∃ d, r.NormalForm d := by
  obtain ⟨d, data⟩ := plain.exists_isData
  refine ⟨d, plain, plain.reduced, data.normal, data.encoded, fun style fallback fault => ?_⟩
  rw [data.encoded, Datum.chars_eq_error_iff]

theorem normal_eq_reduced (declared : v.Declared) (fallback : Fallback) :
    v.normal = v.reduced fallback >>= normal := by
  have matched := Value.reduced_isData fallback declared []
  generalize v.reduced fallback = reduced?, v.normal = normal? at matched ⊢
  cases matched with
  | ok data => exact data.normal.symm
  | error fault => rfl

/-- The plain form of a value is that of what it is reduced to, which is a normal form and does
not depend on the fallback that would order the elements of sets. -/
theorem reduced_to_normalForm (v : Value) (fallback : Fallback) :
    (v.Declared → v.normal = v.reduced fallback >>= normal) ∧
      (∀ other, v.reduced other = v.reduced fallback) ∧
      ∀ r, v.reduced fallback = .ok r → ∃ d, r.NormalForm d := by
  refine ⟨fun declared => normal_eq_reduced declared fallback, fun other => ?_, fun r reduced => ?_⟩
  · exact reduced_congr v other fallback
  · exact (Plain.of_reduced reduced).normalForm

/-- The elements of a set in a dump change places, members of enumerations stay, and a field that
was never set is null. -/
theorem reduced_to_normalForm_dump :
    let new : Value := .member (.text "new") "Mark" "NEW" (.text "new")
    let low : Value := .member (.int 1) "Level" "LOW" (.int 1)
    let marks : Value := .set true [new, .scalar (.date ⟨2024, 5, 17⟩)]
    let page : Value := .object none [] .absent false (.gives (.dict true [(.null, marks)]))
    let tag : Value := .data "Tag" [("level", low)] ["colour"]
    let v : Value := .tuple [page, tag]
    let r : Value := .list [.dict false [(.text "", .list [.text "2024-05-17", new])],
      .dict false [(.text "level", low), (.text "colour", .null)]]
    let d : Datum := .list [.map [("", .list [.text "2024-05-17", .text "new"])],
      .map [("level", .int 1), ("colour", .null)]]
    let refusal : Fallback := fun _ => .error .unencodable
    v.Declared ∧ v.reduced refusal = .ok r ∧ v.normal = .ok d ∧ r.NormalForm d := by
  intro new low marks page tag v r d refusal
  have number : low.Declared := .member (.scalar _)
  have word : new.Declared := .member (.scalar _)
  have listed : marks.Declared := .set (by simp [word, Declared.scalar])
  have dumped : page.Declared := by
    apply Declared.object
    rintro _ ⟨⟩
    exact .dict (by simp [listed])
  have record : tag.Declared := .data (by decide) (by simp [number])
  have declared : v.Declared := .tuple (by simp [dumped, record])
  have reduced : v.reduced refusal = .ok r := by cbv
  have made : v.normal = .ok d := by cbv
  obtain ⟨running, -, results⟩ := reduced_to_normalForm v refusal
  obtain ⟨e, form⟩ := results r reduced
  have same : v.normal = .ok e := by
    rw [running declared, reduced]
    exact form.normal
  obtain rfl : d = e := Except.ok.inj (made.symm.trans same)
  exact ⟨declared, reduced, made, form⟩

end Value

end CachePolicy
