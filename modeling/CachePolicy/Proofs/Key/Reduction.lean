import CachePolicy.Proofs.Key.Encoding
import CachePolicy.Value.Attribute.Part

/-!
# Values reduced to plain ones

A value is reduced to a plain one, which has its content without what only a program can
read.  An encoder is at work in it, since the elements of a set are put in the order of
their texts.  What that encoder would do with values that it does not know never shows.
-/

namespace CachePolicy

/-- A dictionary of these fields; of those with one name the last is kept. -/
def Value.ofFields (fields : Table String Value) : Value :=
  .dict false (Signature.keywordEntries (Table.ofEntries fields))

def Scalar.reduced : Scalar → Value
  | account id tags => .ofFields [("id", .int id), ("tags", .list (tags.map .text))]
  | s => if (Value.scalar s).leaf?.isSome then .scalar s else .text s.plainText

/-- What is made of the answer to the request for a dump, or of a refusal. -/
def Value.ofAnswer (v : Value) (answer : Option Datum) : Value :=
  (answer.map Datum.value).getD (.text v.displayOrPlace)

/-- Items in the order of their texts, if all of them have one. -/
def sortedBy {α : Type} (text : α → Except Fault (List Char)) (items : List α) :
    Except Fault (List α) := do
  let keyed ← items.mapM fun a => do return (← text a, a)
  return (keyed.mergeSort fun a b => Datum.charsLe a.1 b.1).map (·.2)

section

variable (fallback : Fallback)

mutual

/-- The plain value that a value is reduced to.  What is a number or a text besides, such as a
member of an enumeration, stays as it is. -/
def Value.reduced : Value → (refusals : Refusals := []) → Except Fault Value
  | .scalar s, refusals => do
      if let some name := s.reader? then refusals.allow (.attribute name)
      return s.reduced
  | .list items, refusals | .tuple items, refusals => do
      refusals.allow (.attribute dumpName)
      return .list (← reducedItems items)
  | .set _ items, refusals => do
      refusals.allow (.attribute dumpName)
      return .list (← sortedBy (Value.encoded Datum.sorting fallback) (← reducedItems items))
  | .dict _ entries, refusals => do
      refusals.allow (.attribute dumpName)
      refusals.allow (.attribute "items")
      return .ofFields (← reducedEntries entries)
  | .member mixin cls name value, refusals =>
      if (mixin.normal? false).isSome then .ok (.member mixin cls name value)
      else do
        refusals.allow (.attribute "value")
        value.reduced
  | .data _ fields missing, refusals => do
      let members ← reducedFields fields refusals
      missing.forM fun name => refusals.allow (.attribute name)
      return .ofFields (members ++ missing.map fun name => (name, .null))
  | .named cls fields, refusals => do
      refusals.allow (.attribute dumpName)
      match (Table.get? fields dumpName).bind Value.dumped? with
      | some answer => return (Value.named cls fields).ofAnswer answer
      | none => return .list ((← reducedFields fields).map (·.2))
  | .object words attributes equality untestable dump, refusals => do
      let own := Value.object words attributes equality untestable dump
      refusals.allow (.attribute dumpName)
      match Table.get? attributes dumpName, dump with
      | some maker, _ => return own.ofAnswer maker.dumped?.join
      | none, .gives dumped => dumped.reduced
      | none, _ => return .text own.displayOrPlace
  | .lookup status value, _ => do
      return .ofFields [("status", status.value), ("value", ← value.reduced)]
  | .pattern p, _ => p.reduced
  | .known cls _, refusals => do
      refusals.allow (.attribute dumpName)
      return .text (placedText cls.qualifiedName)
  | .refusing more value, refusals =>
      if value.leaf?.isSome then .ok (.refusing more value)
      else value.reduced (refusals ++ more)

def Pattern.reduced : Pattern → Except Fault Value
  | .any => .ok (.ofFields [])
  | .exact value => do return .ofFields [("value", ← value.reduced)]
  | .shape elements => do return .ofFields [("elements", .list (← reducedPatterns elements))]
  | .record cls fields => do
      return .ofFields [("cls", .text cls.shown), ("fields", .list (← reducedMatchers fields))]
  | .abstract => .ok (.text (placedText Class.pattern.qualifiedName))

def reducedItems : List Value → Except Fault (List Value)
  | [] => .ok []
  | v :: rest => do return (← v.reduced) :: (← reducedItems rest)

/-- The entries of a mapping are named by the fragments of their keys. -/
def reducedEntries : List (Value × Value) → Except Fault (Table String Value)
  | [] => .ok []
  | (k, v) :: rest => do
      let name ← k.fragment
      return (name, ← v.reduced) :: (← reducedEntries rest)

def reducedFields :
    List (String × Value) → (refusals : Refusals := []) → Except Fault (Table String Value)
  | [], _ => .ok []
  | (name, v) :: rest, refusals => do
      refusals.allow (.attribute name)
      return (name, ← v.reduced) :: (← reducedFields rest refusals)

def reducedPatterns : List Pattern → Except Fault (List Value)
  | [] => .ok []
  | p :: rest => do return (← p.reduced) :: (← reducedPatterns rest)

def reducedMatchers : List (String × Pattern) → Except Fault (List Value)
  | [] => .ok []
  | (name, p) :: rest => do
      return .list [.text name, ← p.reduced] :: (← reducedMatchers rest)

end

end

/-! ## Sorting -/

theorem matched_sortedBy {α β : Type} {R : α → β → Prop} {items : List α} {others : List β}
    {f : α → Except Fault (List Char)} {g : β → Except Fault (List Char)}
    (each : List.Forall₂ R items others) (shared : ∀ a b, R a b → f a = g b) :
    Matched (List.Forall₂ R) (sortedBy f items) (sortedBy g others) := by
  have keyed : List.Forall₂ (fun a b => Matched (fun x y => x.1 = y.1 ∧ R x.2 y.2)
      (do return (← f a, a)) (do return (← g b, b))) items others := by
    refine each.imp fun a b related => ?_
    rw [shared a b related]
    cases g b with
    | error fault => exact .error fault
    | ok text => exact .ok ⟨rfl, related⟩
  refine (Matched.mapM keyed).map fun xs ys related => ?_
  rw [List.forall₂_map_left_iff, List.forall₂_map_right_iff]
  have sorted := Datum.forall₂_mergeSort (f := Prod.fst) (g := Prod.fst) related
    fun x y same => same.1
  exact sorted.imp fun x y same => same.2

/-! ## Dictionaries of fields -/

namespace Value

variable {v : Value} {d : Datum} {fields : Table String Value}

theorem plain_text (words : String) : (text words).Plain := .leaf rfl

theorem plain_ofFields (each : ∀ field ∈ fields, field.2.Plain) : (ofFields fields).Plain := by
  apply Plain.dict (Table.distinct_ofEntries fields)
  intro field kept
  exact each field (Table.mem_of_mem_ofEntries kept)

theorem isData_ofFields {members : Table String Datum}
    (each : Table.Alike IsData fields members) :
    (ofFields fields).IsData (Datum.ofMembers members) := by
  rw [Datum.ofMembers_eq_ofEntries]
  exact isData_dict (Table.distinct_ofEntries fields) each.ofEntries

theorem isData_ofFields_of_distinct {members : Table String Datum} (distinct : members.Distinct)
    (each : Table.Alike IsData fields members) : (ofFields fields).IsData (.map members) := by
  rw [← Datum.ofMembers_of_distinct distinct]
  exact isData_ofFields each

/-! ## Values that are reduced at once -/

/-- Goes on unless an attribute that is read of the value itself is refused. -/
def readable (v : Value) (refusals : Refusals) : Except Fault Unit :=
  (v.reads false).forM fun name => refusals.allow (.attribute name)

theorem readable_of_reads {name : String} (reads : v.reads false = [name]) (refusals : Refusals) :
    v.readable refusals = refusals.allow (.attribute name) := by
  rw [readable, reads, List.forM]
  cases refusals.allow (.attribute name) <;> rfl

/-- The value is reduced to a plain one without a look at other values, and so is its plain form
read. -/
structure Settles (v r : Value) (d : Datum) : Prop where
  plain : r.Plain
  data : r.IsData d
  reduced : ∀ fallback refusals,
    v.reduced fallback refusals = do
      v.readable refusals
      return r
  normal : ∀ refusals,
    v.normal false refusals = do
      v.readable refusals
      return d

theorem settles_scalar (s : Scalar) : (scalar s).Settles s.reduced s.normal := by
  have asked : ∀ {α : Type} (refusals : Refusals) (a : α),
      (do
        if let some name := s.reader? then refusals.allow (.attribute name)
        return a) = (do (scalar s).readable refusals; return a) := by
    intro α refusals a
    rw [readable, reads]
    cases s.reader? with
    | none => rfl
    | some name => rw [Option.toList, List.forM, bind_assoc]; rfl
  have reduced := fun (_ : Fallback) refusals => asked refusals s.reduced
  have normal := fun refusals => asked refusals s.normal
  cases s with
  | account id tags =>
      have texts : (list (tags.map .text)).Plain := .list (by simp [plain_text])
      have datas : (list (tags.map .text)).IsData (.list (tags.map .text)) := by
        apply isData_list
        rw [List.forall₂_map_left_iff, List.forall₂_map_right_iff, List.forall₂_same]
        exact fun tag _ => isData_of_leaf rfl
      refine ⟨plain_ofFields ?_, isData_ofFields_of_distinct ?_ ?_, reduced, normal⟩
      · have number : (int id).Plain := .leaf rfl
        simp [number, texts]
      · simp [Table.Distinct]
      · exact .cons ⟨rfl, isData_of_leaf rfl⟩ (.cons ⟨rfl, datas⟩ .nil)
  | _ => exact ⟨.leaf rfl, isData_of_leaf rfl, reduced, normal⟩

theorem settles_of_leaf (leaf : v.leaf? = some d) : v.Settles v d := by
  have unread := (reads_of_leaf leaf).1
  refine ⟨.leaf leaf, isData_of_leaf leaf, fun fallback refusals => ?_, fun refusals => ?_⟩
  · rw [readable, unread]
    cases v with
    | scalar s => cases s <;> cases leaf <;> rfl
    | member mixin cls name value =>
        have scalar : mixin.normal? false = some d := leaf
        rw [reduced, if_pos (by rw [scalar]; rfl)]
        rfl
    | refusing more value =>
        have inside : value.leaf? = some d := leaf
        rw [reduced, if_pos (by rw [inside]; rfl)]
        rfl
    | _ => cases leaf
  · rw [readable, unread]
    refine normal_eq_ok_iff_unrefused.mpr ⟨?_, (isData_of_leaf leaf).normal⟩
    rw [unread]
    exact List.forall_mem_nil _

/-- A member of an enumeration stays as it is, or is reduced as its value is. -/
theorem member_cases (mixin : Mixin) (cls name : String) (value : Value) :
    (∃ d, (member mixin cls name value).Settles (member mixin cls name value) d) ∨
      (∀ fallback (refusals : Refusals), (member mixin cls name value).reduced fallback refusals =
        refusals.allow (.attribute "value") >>= fun _ => value.reduced fallback) ∧
      ∀ refusals : Refusals, (member mixin cls name value).normal false refusals =
        refusals.allow (.attribute "value") >>= fun _ => value.normal := by
  cases scalar : mixin.normal? false with
  | some d => exact .inl ⟨d, settles_of_leaf scalar⟩
  | none =>
      exact .inr ⟨fun fallback refusals => by simp [reduced, scalar],
        fun refusals => by simp [normal, scalar]⟩

theorem reduced_refusing_of_no_leaf {more refusals : Refusals} {fallback : Fallback}
    (none : (refusing more v).leaf? = none) :
    (refusing more v).reduced fallback refusals = v.reduced fallback (refusals ++ more) := by
  rw [reduced, if_neg]
  rw [show v.leaf? = _ from none]
  exact nofun

/-- A class makes a dictionary or a list of the form that is asked for, or refuses. -/
theorem dumped_value {c : Class} (dumped : c.dumped? = some d) :
    d.value.Plain ∧ d.value.IsData d := by
  have plain : (Datum.text "json").value.Plain := plain_text _
  have form : (Datum.text "json").value.IsData (.text "json") := isData_of_leaf rfl
  have map : (Datum.map [("mode", .text "json")]).value.Plain ∧
      (Datum.map [("mode", .text "json")]).value.IsData (.map [("mode", .text "json")]) :=
    ⟨.dict (by decide) (by simpa [Datum.valueMembers] using plain),
      isData_dict (by decide) (.cons ⟨rfl, form⟩ .nil)⟩
  unfold Class.dumped? at dumped
  split at dumped <;> cases dumped
  · exact map
  · exact map
  · exact ⟨.list (by simpa [Datum.valueItems] using plain), isData_list (.cons form .nil)⟩

theorem ofAnswer_dumped {maker : Value} {answer : Option Datum}
    (asked : maker.dumped? = some answer) :
    (v.ofAnswer answer).Plain ∧
      (v.ofAnswer answer).IsData (answer.getD (.text v.displayOrPlace)) := by
  cases answer with
  | none => exact ⟨plain_text _, isData_of_leaf rfl⟩
  | some d =>
      induction maker using Value.inductRefusing with
      | refusing more value ih => exact ih asked
      | scalar s =>
          cases s with
          | kind c => exact dumped_value (Option.some.inj asked)
          | _ => cases asked
      | _ => cases asked

theorem ofAnswer_asked (v maker : Value) :
    (v.ofAnswer maker.dumped?.join).Plain ∧
      (v.ofAnswer maker.dumped?.join).IsData
        (maker.dumped?.join.getD (.text v.displayOrPlace)) := by
  cases asked : maker.dumped? with
  | none => exact ⟨plain_text _, isData_of_leaf rfl⟩
  | some answer => exact ofAnswer_dumped asked

/-- A named tuple is reduced by the class under the name of a dump, or field by field. -/
theorem named_cases (cls : String) (fields : Table String Value) :
    (∃ r d, (named cls fields).Settles r d) ∨
      (∀ fallback (refusals : Refusals), (named cls fields).reduced fallback refusals =
        refusals.allow (.attribute dumpName) >>= fun _ =>
          do return .list ((← reducedFields fallback fields).map (·.2))) ∧
      ∀ refusals : Refusals, (named cls fields).normal false refusals =
        refusals.allow (.attribute dumpName) >>= fun _ =>
          do return .list ((← normalFields fields).map (·.2)) := by
  have readable := (named cls fields).readable_of_reads rfl
  cases asked : (Table.get? fields dumpName).bind dumped? with
  | some answer =>
      obtain ⟨maker, -, answered⟩ := Option.bind_eq_some_iff.mp asked
      obtain ⟨plain, data⟩ := ofAnswer_dumped (v := named cls fields) answered
      exact .inl ⟨_, _, plain, data, fun fallback refusals => by rw [reduced, asked, readable],
        fun refusals => by rw [normal, asked, readable]⟩
  | none =>
      exact .inr ⟨fun fallback refusals => by rw [reduced, asked],
        fun refusals => by rw [normal, asked]⟩

/-- An object is reduced to the answer to the request for a dump or to its text, or is reduced as
its dump is. -/
theorem object_cases (words : Option String) (attributes : List (String × Value))
    (equality : Hook Value) (untestable : Bool) (dump : Hook Value) :
    (∃ r d, (object words attributes equality untestable dump).Settles r d) ∨
      ∃ dumped, dump = .gives dumped ∧
        (∀ fallback (refusals : Refusals),
          (object words attributes equality untestable dump).reduced fallback refusals =
            refusals.allow (.attribute dumpName) >>= fun _ => dumped.reduced fallback) ∧
        ∀ refusals : Refusals,
          (object words attributes equality untestable dump).normal false refusals =
            refusals.allow (.attribute dumpName) >>= fun _ => dumped.normal := by
  have readable := (object words attributes equality untestable dump).readable_of_reads rfl
  cases held : Table.get? attributes dumpName with
  | some maker =>
      obtain ⟨plain, data⟩ :=
        ofAnswer_asked (object words attributes equality untestable dump) maker
      refine .inl ⟨_, _, plain, data, fun fallback refusals => ?_, fun refusals => ?_⟩
      · rw [reduced.eq_def, readable]
        simp only [held]
      · simp only [normal, held, readable]
  | none =>
      by_cases given : ∃ dumped, dump = .gives dumped
      · obtain ⟨dumped, rfl⟩ := given
        refine .inr ⟨dumped, rfl, fun fallback refusals => ?_, fun refusals => ?_⟩
        · simp only [reduced, held]
        · simp only [normal, held, normalDump_getD]
      · let own := (object words attributes equality untestable dump).displayOrPlace
        refine .inl ⟨.text own, .text own, plain_text own, isData_of_leaf rfl,
          fun fallback refusals => ?_, fun refusals => ?_⟩
        · cases dump with
          | gives dumped => exact absurd ⟨dumped, rfl⟩ given
          | absent | raises => simp only [own, reduced, held, readable]
        · cases dump with
          | gives dumped => exact absurd ⟨dumped, rfl⟩ given
          | absent | raises =>
              simp only [own, normal, held, readable, normalDump]
              rfl

/-! ## Plain results -/

/-- The values are the same, and plain. -/
def SamePlain (r s : Value) : Prop := r.Plain ∧ r = s

theorem SamePlain.of_plain {r : Value} (plain : r.Plain) : SamePlain r r := ⟨plain, rfl⟩

theorem samePlain_list {rs ss : List Value} (each : List.Forall₂ SamePlain rs ss) :
    SamePlain (.list rs) (.list ss) := by
  obtain ⟨plain, same⟩ := (List.forall₂_and_left _ _).mp each
  rw [List.forall₂_eq_eq_eq] at same
  exact ⟨.list plain, congrArg list same⟩

theorem samePlain_ofFields {fields fields' : Table String Value}
    (each : Table.Alike SamePlain fields fields') :
    SamePlain (.ofFields fields) (.ofFields fields') := by
  have both := each.imp (S := fun a b => a.2.Plain ∧ a = b) fun a b same =>
    ⟨same.2.1, Prod.ext same.1 same.2.2⟩
  obtain ⟨plain, same⟩ := (List.forall₂_and_left _ _).mp both
  rw [List.forall₂_eq_eq_eq] at same
  exact ⟨plain_ofFields plain, congrArg ofFields same⟩

theorem SamePlain.encoded {r s : Value} (same : SamePlain r s) (style : Datum.Style)
    (fallback other : Fallback) : r.encoded style fallback = s.encoded style other := by
  obtain ⟨plain, rfl⟩ := same
  obtain ⟨d, data⟩ := plain.exists_isData
  rw [data.encoded, data.encoded]

theorem Settles.samePlain {r : Value} (settles : v.Settles r d) (fallback other : Fallback)
    (refusals : Refusals) :
    Matched SamePlain (v.reduced fallback refusals) (v.reduced other refusals) := by
  rw [settles.reduced, settles.reduced]
  exact .after _ (.ok (.of_plain settles.plain))

end Value

section

open Value

variable (fallback other : Fallback)

mutual

theorem Value.reduced_samePlain (v : Value) (refusals : Refusals) :
    Matched SamePlain (v.reduced fallback refusals) (v.reduced other refusals) := by
  cases v with
  | scalar s => exact (settles_scalar s).samePlain fallback other refusals
  | list items => exact .after _ ((reducedItems_samePlain items).map fun _ _ => samePlain_list)
  | tuple items => exact .after _ ((reducedItems_samePlain items).map fun _ _ => samePlain_list)
  | set frozen items =>
      refine .after _ ((reducedItems_samePlain items).bind fun rs ss each => ?_)
      have sorted := matched_sortedBy (f := Value.encoded Datum.sorting fallback)
        (g := Value.encoded Datum.sorting other) each fun r s same => same.encoded _ _ _
      exact sorted.map fun _ _ => samePlain_list
  | dict readOnly entries =>
      have listed := (reducedEntries_samePlain entries).map fun _ _ => samePlain_ofFields
      exact .after _ (.after _ listed)
  | member mixin cls name value =>
      rcases member_cases mixin cls name value with ⟨d, settles⟩ | ⟨reduced, -⟩
      · exact settles.samePlain fallback other refusals
      · rw [reduced, reduced]
        exact .after _ (value.reduced_samePlain [])
  | data cls fields missing =>
      refine (reducedFields_samePlain fields refusals).bind fun fs gs each => ?_
      refine .after _ (.ok (samePlain_ofFields (List.rel_append each (List.forall₂_same.mpr ?_))))
      intro field listed
      obtain ⟨name, -, rfl⟩ := List.mem_map.mp listed
      exact ⟨rfl, .of_plain (.leaf rfl)⟩
  | named cls fields =>
      rcases named_cases cls fields with ⟨r, d, settles⟩ | ⟨reduced, -⟩
      · exact settles.samePlain fallback other refusals
      · rw [reduced, reduced]
        exact .after _ ((reducedFields_samePlain fields []).map fun _ _ each =>
          samePlain_list each.values)
  | object words attributes equality untestable dump =>
      rcases object_cases words attributes equality untestable dump with
        ⟨r, d, settles⟩ | ⟨dumped, rfl, reduced, -⟩
      · exact settles.samePlain fallback other refusals
      · rw [reduced, reduced]
        exact .after _ (dumped.reduced_samePlain [])
  | lookup status value =>
      have mark : SamePlain status.value status.value := by
        cases status <;> exact .of_plain (.leaf rfl)
      exact (value.reduced_samePlain []).map fun r s same =>
        samePlain_ofFields (.cons ⟨rfl, mark⟩ (.cons ⟨rfl, same⟩ .nil))
  | pattern p => exact p.reduced_samePlain
  | known cls parts => exact .after _ (.ok (.of_plain (plain_text _)))
  | refusing more value =>
      cases leaf : (Value.refusing more value).leaf? with
      | some d => exact (settles_of_leaf leaf).samePlain fallback other refusals
      | none =>
          rw [reduced_refusing_of_no_leaf leaf, reduced_refusing_of_no_leaf leaf]
          exact value.reduced_samePlain (refusals ++ more)

theorem Pattern.reduced_samePlain (p : Pattern) :
    Matched SamePlain (p.reduced fallback) (p.reduced other) := by
  cases p with
  | any => exact .ok (samePlain_ofFields .nil)
  | exact value =>
      exact (value.reduced_samePlain []).map fun r s same =>
        samePlain_ofFields (.cons ⟨rfl, same⟩ .nil)
  | shape elements =>
      exact (reducedPatterns_samePlain elements).map fun rs ss each =>
        samePlain_ofFields (.cons ⟨rfl, samePlain_list each⟩ .nil)
  | record cls fields =>
      have shown : SamePlain (.text cls.shown) (.text cls.shown) := .of_plain (plain_text _)
      exact (reducedMatchers_samePlain fields).map fun rs ss each =>
        samePlain_ofFields (.cons ⟨rfl, shown⟩ (.cons ⟨rfl, samePlain_list each⟩ .nil))
  | abstract => exact .ok (.of_plain (plain_text _))

theorem reducedItems_samePlain (items : List Value) :
    Matched (List.Forall₂ SamePlain) (reducedItems fallback items) (reducedItems other items) := by
  cases items with
  | nil => exact .ok .nil
  | cons v rest =>
      exact (v.reduced_samePlain []).cons (reducedItems_samePlain rest) fun r s same => same

theorem reducedEntries_samePlain (entries : List (Value × Value)) :
    Matched (Table.Alike SamePlain) (reducedEntries fallback entries)
      (reducedEntries other entries) := by
  cases entries with
  | nil => exact .ok .nil
  | cons entry rest =>
      obtain ⟨k, v⟩ := entry
      rw [reducedEntries, reducedEntries]
      cases k.fragment with
      | error fault => exact .error fault
      | ok name =>
          exact (v.reduced_samePlain []).cons (reducedEntries_samePlain rest)
            fun r s same => ⟨rfl, same⟩

theorem reducedFields_samePlain (fields : List (String × Value)) (refusals : Refusals) :
    Matched (Table.Alike SamePlain) (reducedFields fallback fields refusals)
      (reducedFields other fields refusals) := by
  cases fields with
  | nil => exact .ok .nil
  | cons field rest =>
      obtain ⟨name, v⟩ := field
      exact .after _ ((v.reduced_samePlain []).cons (reducedFields_samePlain rest refusals)
        fun r s same => ⟨rfl, same⟩)

theorem reducedPatterns_samePlain (ps : List Pattern) :
    Matched (List.Forall₂ SamePlain) (reducedPatterns fallback ps) (reducedPatterns other ps) := by
  cases ps with
  | nil => exact .ok .nil
  | cons p rest =>
      exact p.reduced_samePlain.cons (reducedPatterns_samePlain rest) fun r s same => same

theorem reducedMatchers_samePlain (fields : List (String × Pattern)) :
    Matched (List.Forall₂ SamePlain) (reducedMatchers fallback fields)
      (reducedMatchers other fields) := by
  cases fields with
  | nil => exact .ok .nil
  | cons field rest =>
      obtain ⟨name, p⟩ := field
      have named : SamePlain (.text name) (.text name) := .of_plain (plain_text _)
      exact p.reduced_samePlain.cons (reducedMatchers_samePlain rest) fun r s same =>
        samePlain_list (.cons named (.cons same .nil))

end

end

end CachePolicy
