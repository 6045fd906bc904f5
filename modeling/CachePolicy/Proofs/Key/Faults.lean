import CachePolicy.Key.Template
import CachePolicy.Proofs.Datum.Written
import CachePolicy.Proofs.Key.Reads

/-!
# Faults of key fragments

A value is unreducible when it has no plain form: a read on the way to it is refused, or an
integer with too many digits stands in a set or in a key of a mapping, where it has to be
written early.  It is unwritable when it is unreducible or its plain form holds such an
integer.  A fragment fails with the fault of something in the value that makes it unwritable.
-/

namespace CachePolicy

/-! ## Printing -/

theorem limitedIntegerText_failsOnly (n : Int) :
    FailsOnly (· = .integerTooLong) (limitedIntegerText n) := by
  unfold limitedIntegerText
  split
  · exact .error rfl
  · exact .ok _

namespace Datum

/-- Data that holds a long integer cannot be written, and that is the fault. -/
def Unprintable (d : Datum) (fault : Fault) : Prop := d.Overlong ∧ fault = .integerTooLong

theorem chars_failsOnly (style : Style) (d : Datum) :
    FailsOnly (· = .integerTooLong) (d.chars style) := by
  induction d with
  | null => exact .ok _
  | flag b => exact .ok _
  | int n => exact (limitedIntegerText_failsOnly n).bind fun _ _ => .ok _
  | float x => exact .ok _
  | text s => exact .ok _
  | list items each =>
      rw [chars, itemChars_eq_mapM]
      exact (FailsOnly.mapM each).bind fun _ _ => .ok _
  | map members each =>
      rw [chars, namedChars_eq_mapM]
      exact (FailsOnly.mapM fun member held => (each member held).bind fun _ _ => .ok _).bind
        fun _ _ => .ok _

theorem chars_unprintable (style : Style) (d : Datum) :
    FailsOnly d.Unprintable (d.chars style) :=
  fun fault failed =>
    ⟨(chars_fails_iff style d).mp ⟨fault, failed⟩, d.chars_failsOnly style fault failed⟩

theorem print_unprintable (style : Style) (d : Datum) :
    FailsOnly d.Unprintable (d.print style) :=
  (d.chars_unprintable style).bind fun _ _ => .ok _

end Datum

theorem sortedItems_unprintable (ds : List Datum) :
    FailsOnly (fun fault => ∃ d ∈ ds, d.Unprintable fault) (sortedItems ds) := by
  refine (FailsOnly.mapM fun d member => ?_).bind fun _ _ => .ok _
  refine ((d.chars_unprintable _).imp fun fault unprintable => ?_).bind fun _ _ => .ok _
  exact ⟨d, member, unprintable⟩

theorem Value.fragmentOf_unprintable (v : Value) (d : Datum) :
    FailsOnly d.Unprintable (v.fragmentOf d) := by
  fun_induction Value.fragmentOf v d with
  | case4 _ _ _ _ _ _ ih | case5 _ _ _ ih => exact ih
  | case7 v d => exact d.print_unprintable _
  | _ => exact .ok _

/-! ## Values without a plain form -/

mutual

/-- Why a value behind these refusals has no plain form: a read that is made of it is refused, or
a part of it has no plain form or holds a number that is too long. -/
inductive Value.Unreducible : Value → Bool → Refusals → Fault → Prop
  | read {v : Value} {outer : Bool} {refusals : Refusals} {name : String} {fault : Fault}
      (reads : name ∈ v.reads outer) (refused : refusals.fault? (.attribute name) = some fault) :
      Value.Unreducible v outer refusals fault
  | refusing {more refusals : Refusals} {v : Value} {outer : Bool} {fault : Fault}
      (part : v.Unreducible outer (refusals ++ more) fault) :
      Value.Unreducible (.refusing more v) outer refusals fault
  | listItem {items : List Value} {v : Value} {outer : Bool} {refusals : Refusals}
      {fault : Fault} (member : v ∈ items) (part : v.Unreducible false [] fault) :
      Value.Unreducible (.list items) outer refusals fault
  | tupleItem {items : List Value} {v : Value} {outer : Bool} {refusals : Refusals}
      {fault : Fault} (member : v ∈ items) (part : v.Unreducible false [] fault) :
      Value.Unreducible (.tuple items) outer refusals fault
  | element {frozen : Bool} {items : List Value} {v : Value} {outer : Bool}
      {refusals : Refusals} {fault : Fault} (member : v ∈ items)
      (part : v.Unreducible false [] fault) :
      Value.Unreducible (.set frozen items) outer refusals fault
  | longElement {frozen : Bool} {items : List Value} {v : Value} {d : Datum} {outer : Bool}
      {refusals : Refusals} {fault : Fault} (member : v ∈ items) (normal : v.normal = .ok d)
      (long : d.Unprintable fault) : Value.Unreducible (.set frozen items) outer refusals fault
  | key {readOnly : Bool} {entries : List (Value × Value)} {k v : Value} {outer : Bool}
      {refusals : Refusals} {fault : Fault} (member : (k, v) ∈ entries)
      (part : k.Unreducible true [] fault) :
      Value.Unreducible (.dict readOnly entries) outer refusals fault
  | longKey {readOnly : Bool} {entries : List (Value × Value)} {k v : Value} {d : Datum}
      {outer : Bool} {refusals : Refusals} {fault : Fault} (member : (k, v) ∈ entries)
      (normal : k.normal true = .ok d) (long : d.Unprintable fault) :
      Value.Unreducible (.dict readOnly entries) outer refusals fault
  | entry {readOnly : Bool} {entries : List (Value × Value)} {k v : Value} {outer : Bool}
      {refusals : Refusals} {fault : Fault} (member : (k, v) ∈ entries)
      (part : v.Unreducible false [] fault) :
      Value.Unreducible (.dict readOnly entries) outer refusals fault
  | member {mixin : Mixin} {cls name : String} {v : Value} {outer : Bool} {refusals : Refusals}
      {fault : Fault} (valued : mixin.normal? outer = none)
      (part : v.Unreducible outer [] fault) :
      Value.Unreducible (.member mixin cls name v) outer refusals fault
  | field {cls name : String} {fields : List (String × Value)} {missing : List String} {v : Value}
      {outer : Bool} {refusals : Refusals} {fault : Fault} (member : (name, v) ∈ fields)
      (part : v.Unreducible false [] fault) :
      Value.Unreducible (.data cls fields missing) outer refusals fault
  | namedField {cls name : String} {fields : List (String × Value)} {v : Value} {outer : Bool}
      {refusals : Refusals} {fault : Fault}
      (undumped : (Table.get? fields dumpName).bind Value.dumped? = none)
      (member : (name, v) ∈ fields) (part : v.Unreducible false [] fault) :
      Value.Unreducible (.named cls fields) outer refusals fault
  | dump {text : Option String} {attributes : List (String × Value)} {equality : Hook Value}
      {untestable : Bool} {v : Value} {outer : Bool} {refusals : Refusals} {fault : Fault}
      (inherited : Table.get? attributes dumpName = none) (part : v.Unreducible false [] fault) :
      Value.Unreducible (.object text attributes equality untestable (.gives v)) outer refusals
        fault
  | looked {status : StatusMark} {v : Value} {outer : Bool} {refusals : Refusals} {fault : Fault}
      (part : v.Unreducible false [] fault) :
      Value.Unreducible (.lookup status v) outer refusals fault
  | pattern {p : Pattern} {outer : Bool} {refusals : Refusals} {fault : Fault}
      (part : p.Unreducible fault) : Value.Unreducible (.pattern p) outer refusals fault

inductive Pattern.Unreducible : Pattern → Fault → Prop
  | exact {v : Value} {fault : Fault} (part : v.Unreducible false [] fault) :
      Pattern.Unreducible (.exact v) fault
  | element {elements : List Pattern} {p : Pattern} {fault : Fault} (member : p ∈ elements)
      (part : p.Unreducible fault) : Pattern.Unreducible (.shape elements) fault
  | field {cls : Class} {fields : List (String × Pattern)} {name : String} {p : Pattern}
      {fault : Fault} (member : (name, p) ∈ fields) (part : p.Unreducible fault) :
      Pattern.Unreducible (.record cls fields) fault

end

/-- Why a value has no fragment. -/
inductive Value.Unwritable (v : Value) : Fault → Prop
  | unreducible {fault : Fault} (part : v.Unreducible true [] fault) : v.Unwritable fault
  | long {d : Datum} {fault : Fault} (normal : v.normal true = .ok d)
      (long : d.Unprintable fault) : v.Unwritable fault

/-! ## The fault of a fragment -/

namespace Value

variable {outer : Bool} {refusals : Refusals} {fault : Fault}

/-- A read that is made is allowed to fail as its refusal says. -/
theorem Unreducible.ofRead {v : Value} {name : String} (reads : name ∈ v.reads outer) :
    FailsOnly (v.Unreducible outer refusals) (refusals.allow (.attribute name)) := by
  unfold Refusals.allow
  split
  · rename_i fault refused
    exact .error (.read reads refused)
  · exact .ok _

end Value

mutual

theorem Value.normal_unreducible (v : Value) (outer : Bool) (refusals : Refusals) :
    FailsOnly (v.Unreducible outer refusals) (v.normal outer refusals) := by
  cases v with
  | scalar s =>
      rw [Value.normal]
      cases asked : s.reader? with
      | none => exact .ok _
      | some name =>
          exact (Value.Unreducible.ofRead (by simp [Value.reads, asked])).bind fun _ _ => .ok _
  | list items =>
      rw [Value.normal]
      refine (Value.Unreducible.ofRead List.mem_cons_self).bind fun _ _ => ?_
      refine ((normalItems_unreducible items).imp ?_).bind fun _ _ => .ok _
      exact fun _ ⟨_, member, part⟩ => .listItem member part
  | tuple items =>
      rw [Value.normal]
      refine (Value.Unreducible.ofRead List.mem_cons_self).bind fun _ _ => ?_
      refine ((normalItems_unreducible items).imp ?_).bind fun _ _ => .ok _
      exact fun _ ⟨_, member, part⟩ => .tupleItem member part
  | set frozen items =>
      rw [Value.normal]
      refine (Value.Unreducible.ofRead List.mem_cons_self).bind fun _ _ => ?_
      refine ((normalItems_unreducible items).imp ?_).bind fun ds made => ?_
      · exact fun _ ⟨_, member, part⟩ => .element member part
      · refine ((sortedItems_unprintable ds).imp ?_).bind fun _ _ => .ok _
        rintro fault ⟨d, held, long⟩
        rw [normalItems_eq_mapM, mapM_eq_ok_iff] at made
        obtain ⟨v, member, normal⟩ := exists_of_mem_right made held
        exact .longElement member normal long
  | dict readOnly entries =>
      rw [Value.normal]
      refine (Value.Unreducible.ofRead (by simp [Value.reads])).bind fun _ _ => ?_
      refine (Value.Unreducible.ofRead (by simp [Value.reads])).bind fun _ _ => ?_
      refine ((normalEntries_unreducible entries).imp ?_).bind fun _ _ => .ok _
      rintro fault ⟨⟨k, v⟩, member, (part | ⟨normal, long⟩) | part⟩
      · exact .key member part
      · exact .longKey member normal long
      · exact .entry member part
  | member mixin cls name value =>
      rw [Value.normal]
      cases valued : mixin.normal? outer with
      | some d => exact .ok _
      | none =>
          refine (Value.Unreducible.ofRead (by simp [Value.reads, valued])).bind fun _ _ => ?_
          exact (value.normal_unreducible outer []).imp fun _ part => .member valued part
  | data cls fields missing =>
      rw [Value.normal]
      refine ((normalFields_unreducible fields refusals).imp ?_).bind fun _ _ => ?_
      · rintro fault (⟨name, declared, refused⟩ | ⟨_, member, part⟩)
        · exact .read (List.mem_append_left _ declared) refused
        · exact .field member part
      · refine FailsOnly.bind (fun fault failed => ?_) fun _ _ => .ok _
        obtain ⟨name, unset, refused⟩ := Refusals.forM_allow_eq_error failed
        exact .read (List.mem_append_right _ unset) refused
  | named cls fields =>
      rw [Value.normal]
      refine (Value.Unreducible.ofRead List.mem_cons_self).bind fun _ _ => ?_
      cases undumped : (Table.get? fields dumpName).bind Value.dumped? with
      | some dumped => exact .ok _
      | none =>
          refine ((normalFields_unreducible fields []).imp ?_).bind fun _ _ => .ok _
          rintro fault (⟨name, -, refused⟩ | ⟨_, member, part⟩)
          · cases refused
          · exact .namedField undumped member part
  | object words attributes equality untestable dump =>
      rw [Value.normal]
      refine (Value.Unreducible.ofRead List.mem_cons_self).bind fun _ _ => ?_
      cases inherited : Table.get? attributes dumpName with
      | some maker => exact .ok _
      | none =>
          refine ((normalDump_unreducible dump).imp ?_).bind fun _ _ => .ok _
          rintro fault ⟨dumped, rfl, part⟩
          exact .dump inherited part
  | lookup status value =>
      rw [Value.normal]
      refine ((value.normal_unreducible false []).imp ?_).bind fun _ _ => .ok _
      exact fun _ part => .looked part
  | pattern p =>
      rw [Value.normal]
      exact p.normal_unreducible.imp fun _ part => .pattern part
  | known cls parts =>
      rw [Value.normal]
      exact (Value.Unreducible.ofRead List.mem_cons_self).bind fun _ _ => .ok _
  | refusing more value =>
      rw [Value.normal]
      exact (value.normal_unreducible outer (refusals ++ more)).imp fun _ part => .refusing part

theorem normalDump_unreducible (dump : Hook Value) :
    FailsOnly (fun fault => ∃ v, dump = .gives v ∧ v.Unreducible false [] fault)
      (normalDump dump) := by
  cases dump with
  | gives dumped =>
      rw [normalDump]
      refine ((dumped.normal_unreducible false []).imp ?_).bind fun _ _ => .ok _
      exact fun _ part => ⟨dumped, rfl, part⟩
  | absent => exact .ok _
  | raises => exact .ok _

theorem Pattern.normal_unreducible (p : Pattern) : FailsOnly p.Unreducible p.normal := by
  cases p with
  | any => exact .ok _
  | abstract => exact .ok _
  | exact value =>
      rw [Pattern.normal]
      refine ((value.normal_unreducible false []).imp ?_).bind fun _ _ => .ok _
      exact fun _ part => .exact part
  | shape elements =>
      rw [Pattern.normal]
      refine ((normalPatterns_unreducible elements).imp ?_).bind fun _ _ => .ok _
      exact fun _ ⟨_, member, part⟩ => .element member part
  | record cls fields =>
      rw [Pattern.normal]
      refine ((normalMatchers_unreducible fields).imp ?_).bind fun _ _ => .ok _
      exact fun _ ⟨_, member, part⟩ => .field member part

theorem normalItems_unreducible (items : List Value) :
    FailsOnly (fun fault => ∃ v ∈ items, v.Unreducible false [] fault) (normalItems items) := by
  cases items with
  | nil => exact .ok _
  | cons v rest =>
      rw [normalItems]
      refine ((v.normal_unreducible false []).imp ?_).bind fun _ _ => ?_
      · exact fun _ part => ⟨v, List.mem_cons_self, part⟩
      · refine ((normalItems_unreducible rest).imp ?_).bind fun _ _ => .ok _
        exact fun _ ⟨u, member, part⟩ => ⟨u, List.mem_cons_of_mem _ member, part⟩

theorem normalEntries_unreducible (entries : List (Value × Value)) :
    FailsOnly (fun fault => ∃ entry ∈ entries,
        entry.1.Unwritable fault ∨ entry.2.Unreducible false [] fault)
      (normalEntries entries) := by
  cases entries with
  | nil => exact .ok _
  | cons entry rest =>
      obtain ⟨k, v⟩ := entry
      rw [normalEntries]
      refine ((k.normal_unreducible true []).imp ?_).bind fun d normal => ?_
      · exact fun _ part => ⟨_, List.mem_cons_self, .inl (.unreducible part)⟩
      refine ((k.fragmentOf_unprintable d).imp ?_).bind fun _ _ => ?_
      · exact fun _ long => ⟨_, List.mem_cons_self, .inl (.long normal long)⟩
      refine ((v.normal_unreducible false []).imp ?_).bind fun _ _ => ?_
      · exact fun _ part => ⟨_, List.mem_cons_self, .inr part⟩
      refine ((normalEntries_unreducible rest).imp ?_).bind fun _ _ => .ok _
      exact fun _ ⟨entry, member, broken⟩ => ⟨entry, List.mem_cons_of_mem _ member, broken⟩

theorem normalFields_unreducible (fields : List (String × Value)) (refusals : Refusals) :
    FailsOnly (fun fault =>
        (∃ name ∈ fields.map Prod.fst, refusals.fault? (.attribute name) = some fault) ∨
          ∃ field ∈ fields, field.2.Unreducible false [] fault)
      (normalFields fields refusals) := by
  cases fields with
  | nil => exact .ok _
  | cons field rest =>
      obtain ⟨name, v⟩ := field
      rw [normalFields]
      refine FailsOnly.bind (fun fault failed => ?_) fun _ _ => ?_
      · exact .inl ⟨name, List.mem_cons_self, Refusals.allow_eq_error_iff.mp failed⟩
      refine ((v.normal_unreducible false []).imp ?_).bind fun _ _ => ?_
      · exact fun _ part => .inr ⟨_, List.mem_cons_self, part⟩
      refine ((normalFields_unreducible rest refusals).imp ?_).bind fun _ _ => .ok _
      rintro fault (⟨name, declared, refused⟩ | ⟨field, member, part⟩)
      · exact .inl ⟨name, List.mem_cons_of_mem _ declared, refused⟩
      · exact .inr ⟨field, List.mem_cons_of_mem _ member, part⟩

theorem normalPatterns_unreducible (ps : List Pattern) :
    FailsOnly (fun fault => ∃ p ∈ ps, p.Unreducible fault) (normalPatterns ps) := by
  cases ps with
  | nil => exact .ok _
  | cons p rest =>
      rw [normalPatterns]
      refine (p.normal_unreducible.imp ?_).bind fun _ _ => ?_
      · exact fun _ part => ⟨p, List.mem_cons_self, part⟩
      · refine ((normalPatterns_unreducible rest).imp ?_).bind fun _ _ => .ok _
        exact fun _ ⟨q, member, part⟩ => ⟨q, List.mem_cons_of_mem _ member, part⟩

theorem normalMatchers_unreducible (fields : List (String × Pattern)) :
    FailsOnly (fun fault => ∃ field ∈ fields, field.2.Unreducible fault)
      (normalMatchers fields) := by
  cases fields with
  | nil => exact .ok _
  | cons field rest =>
      obtain ⟨name, p⟩ := field
      rw [normalMatchers]
      refine (p.normal_unreducible.imp ?_).bind fun _ _ => ?_
      · exact fun _ part => ⟨_, List.mem_cons_self, part⟩
      · refine ((normalMatchers_unreducible rest).imp ?_).bind fun _ _ => .ok _
        exact fun _ ⟨field, member, part⟩ => ⟨field, List.mem_cons_of_mem _ member, part⟩

end

theorem Value.fragment_unwritable (v : Value) : FailsOnly v.Unwritable v.fragment := by
  refine ((v.normal_unreducible true []).imp fun _ part => .unreducible part).bind
    fun d normal => ?_
  exact (v.fragmentOf_unprintable d).imp fun _ long => .long normal long

/-! ## Faults that occur -/

inductive KeyFault : Fault → Prop
  | integerTooLong : KeyFault .integerTooLong
  | readRefused (refusal : ReadFailure) : KeyFault (.readRefused refusal)

theorem Refusals.keyFault {refusals : Refusals} {access : Access} {fault : Fault}
    (refused : refusals.fault? access = some fault) : KeyFault fault := by
  obtain ⟨refusal, -, rfl⟩ := Option.map_eq_some_iff.mp refused
  exact .readRefused refusal

theorem Datum.Unprintable.keyFault {d : Datum} {fault : Fault} (long : d.Unprintable fault) :
    KeyFault fault :=
  long.2 ▸ .integerTooLong

mutual

theorem Value.Unreducible.keyFault {v : Value} {outer : Bool} {refusals : Refusals}
    {fault : Fault} : v.Unreducible outer refusals fault → KeyFault fault
  | .read _ refused => Refusals.keyFault refused
  | .longElement _ _ long | .longKey _ _ long => long.keyFault
  | .refusing part | .listItem _ part | .tupleItem _ part | .element _ part | .key _ part
  | .entry _ part | .member _ part | .field _ part | .namedField _ _ part | .dump _ part
  | .looked part => part.keyFault
  | .pattern part => part.keyFault

theorem Pattern.Unreducible.keyFault {p : Pattern} {fault : Fault} :
    p.Unreducible fault → KeyFault fault
  | .exact part => part.keyFault
  | .element _ part | .field _ part => part.keyFault

end

theorem Value.Unwritable.keyFault {v : Value} {fault : Fault} (broken : v.Unwritable fault) :
    KeyFault fault := by
  cases broken with
  | unreducible part => exact part.keyFault
  | long _ long => exact long.keyFault

theorem Value.fragment_fails (v : Value) : FailsOnly KeyFault v.fragment :=
  v.fragment_unwritable.imp fun _ broken => broken.keyFault

end CachePolicy
