import CachePolicy.Proofs.Key.Rearranging
import CachePolicy.Proofs.Key.Reordering
import CachePolicy.Value.Attribute.Part

/-!
# Fragments and the carriers of content

One content can be carried by values of several classes: by a member of an enumeration or
by its value, by a tuple or by a list, by a set or by an equal one, by a record or by the
dictionary of its fields.  The fragment does not tell which, at any depth.  The carrier
matters only to what asks for it: a named tuple or an object that holds a class under the
name of a dump calls the class, but no member whose value is the class, and what is shown is
shown with its carrier.  A member that is also a scalar has two contents where that scalar
is not its value.
-/

namespace CachePolicy

namespace Value

/-- The fields of a record that its class declares, null where one was never set. -/
def dataFields? : Value → Option (Table String Value)
  | data _ fields missing => some (fields ++ missing.map (·, null))
  | lookup status value => some [("status", status.value), ("value", value)]
  | pattern .abstract => none
  | pattern p => some p.fields
  | _ => none

/-- The second value has the content of the first one, in a plainer carrier.  A member that is a
scalar as well is that scalar by its value too, and reads that the first value refuses are not
needed for its plain form. -/
inductive Recast : Value → Value → Prop
  | member {mixin : Mixin} {value : Value} (cls name : String)
      (content : ∀ s, mixin.content? = some s → value.unwrapped = .scalar s) :
      Recast (.member mixin cls name value) value
  | tuple (items : List Value) : Recast (.tuple items) (.list items)
  | frozenSet {items others : List Value} (perm : items.Perm others) :
      Recast (.set true items) (.set false others)
  | view (entries : List (Value × Value)) : Recast (.dict true entries) (.dict false entries)
  | reorderedView {entries others : List (Value × Value)} (apart : KeysApart entries)
      (perm : entries.Perm others) : Recast (.dict true entries) (.dict false others)
  | record {v : Value} {fields : Table String Value} (declared : v.dataFields? = some fields)
      (distinct : fields.Distinct) : Recast v (.dict false (Signature.keywordEntries fields))
  | refusing {refusals : Refusals} {v w : Value} (inner : Recast v w)
      (unneeded : ∀ outer, ∀ name ∈ v.reads outer, refusals.fault? (.attribute name) = none) :
      Recast (.refusing refusals v) w

/-- The second value is the first one with a part in a plainer carrier, at any depth of what is
`Kept` by the values around it. -/
inductive Recarried (Kept : Value → Value → Prop) : Value → Value → Prop
  | here {v w : Value} (recast : Recast v w) : Recarried Kept v w
  | part {x y v w : Value} (inner : Recarried Kept x y) (exchanged : Exchanged x y v w)
      (kept : Kept v w) : Recarried Kept v w
  | aside {x y v w : Value} (inner : Recarried Kept x y) (exchanged : ExchangedAside x y v w)
      (kept : Kept v w) : Recarried Kept v w

/-- The first value is not shown, and the second one gets the same answer to the request for a
dump. -/
def ReadAlike (v w : Value) : Prop := ¬ v.Displayed ∧ v.answered? = w.answered?

variable {v w : Value} {fields : Table String Value}

theorem dataFields_compound (declared : v.dataFields? = some fields) : v.Compound := by
  cases v with
  | scalar s => cases declared
  | member kind cls name value => cases declared
  | _ => trivial

/-! ### Members of enumerations -/

/-- A member that is a scalar stands for it in its plain form. -/
theorem normal_of_unwrapped {s : Scalar} {refusals : Refusals} (unread : s.reader? = none)
    (unwrapped : v.unwrapped = .scalar s) : v.normal false refusals = .ok s.normal := by
  induction v using Value.inductRefusing generalizing refusals with
  | refusing more value ih => exact ih unwrapped
  | scalar other =>
      cases unwrapped
      rw [normal, unread]
      rfl
  | member mixin cls name value => cases mixin <;> cases unwrapped <;> rfl
  | _ => cases unwrapped

theorem reads_of_text {s : String} (unwrapped : v.unwrapped = .text s) (outer : Bool) :
    v.reads outer = [] := by
  induction v using Value.inductRefusing with
  | refusing more value ih => exact ih unwrapped
  | scalar other => cases unwrapped; rfl
  | member mixin cls name value => cases mixin <;> cases unwrapped; rfl
  | _ => cases unwrapped

theorem fragment_of_unwrapped {s : String} (unwrapped : v.unwrapped = .text s) :
    v.fragment = .ok s := by
  induction v using Value.inductRefusing with
  | refusing more value ih =>
      have unread : ∀ name ∈ value.reads true, more.fault? (.attribute name) = none := by
        rw [reads_of_text (v := value) unwrapped]
        exact List.forall_mem_nil _
      exact fragment_refusing_eq_ok_iff.mpr ⟨unread, ih unwrapped⟩
  | scalar other => cases unwrapped; rfl
  | member mixin cls name value => cases mixin <;> cases unwrapped; rfl
  | _ => cases unwrapped

theorem sameContent_value {mixin : Mixin} {value : Value} (cls name : String)
    (content : ∀ s, mixin.content? = some s → value.unwrapped = .scalar s) :
    SameContent (.member mixin cls name value) value where
  normal := by
    cases mixin with
    | plain => exact .refl Datum.Same.refl _
    | int n => rw [normal_of_unwrapped rfl (content (.int n) rfl)]; exact .ok (.refl _)
    | text s => rw [normal_of_unwrapped rfl (content (.text s) rfl)]; exact .ok (.refl _)
    | float x => rw [normal_of_unwrapped rfl (content (.float x) rfl)]; exact .ok (.refl _)
  fragment := by
    cases mixin with
    | text s => rw [fragment_of_unwrapped (content (.text s) rfl)]; exact .refl _
    | _ => exact .refl _

-- A member whose scalar is not its value is that scalar in a list, and its value as an argument.
example :
    let low : Value := .member (.int 1) "Priority" "LOW" (.text "low")
    (list [low]).normal = .ok (.list [.int 1]) ∧ low.fragment = .ok "low" :=
  ⟨rfl, rfl⟩

/-! ### Records -/

theorem traverse_nulls (names : List String) :
    Table.traverse normal (names.map (·, null)) = .ok (names.map (·, Datum.null)) := by
  induction names with
  | nil => rfl
  | cons name names ih =>
      rw [Table.traverse] at ih ⊢
      rw [List.map_cons, List.mapM_cons, ih]
      rfl

theorem normalItems_patterns (elements : List Pattern) :
    normalItems (elements.map .pattern) = normalPatterns elements := by
  induction elements with
  | nil => rfl
  | cons p rest ih => rw [List.map_cons, normalItems, normalPatterns, ih, normal]

theorem normalItems_matchers (matchers : List (String × Pattern)) :
    normalItems (matchers.map fun field => .tuple [.text field.1, .pattern field.2]) =
      normalMatchers matchers := by
  induction matchers with
  | nil => rfl
  | cons field rest ih =>
      have pair : (tuple [.text field.1, .pattern field.2]).normal =
          do return .list [.text field.1, ← field.2.normal] := by
        have matcher : (Value.pattern field.2).normal = field.2.normal := by rw [normal]
        rw [normal, normalItems, normalItems, normalItems, matcher]
        cases field.2.normal <;> rfl
      rw [List.map_cons, normalItems, normalMatchers, ih, pair]
      cases field.2.normal <;> rfl

theorem normal_of_dataFields (declared : v.dataFields? = some fields) :
    v.normal = do return .map (← fields.traverse normal) := by
  cases v with
  | data cls given missing =>
      cases declared
      -- the fields that were never set come last on both sides
      have nulls := traverse_nulls missing
      rw [Table.traverse] at nulls ⊢
      rw [normal_data, normalFields_eq_mapM, List.mapM_append, nulls]
      cases given.mapM fun field => do return (field.1, ← field.2.normal) <;> rfl
  | lookup status value =>
      cases declared
      -- the status is a member of an enumeration, or a text already
      have named : status.value.normal = .ok (.text status.name) := by cases status <;> rfl
      rw [normal, Table.traverse, List.mapM_cons, List.mapM_cons, named]
      cases value.normal <;> rfl
  | pattern p =>
      cases p with
      | any => cases declared; rfl
      | exact value =>
          cases declared
          rw [normal, Pattern.normal, Table.traverse, Pattern.fields, List.mapM_cons]
          cases value.normal <;> rfl
      | shape elements =>
          cases declared
          rw [normal, Pattern.normal, Table.traverse, Pattern.fields, List.mapM_cons, normal,
            normalItems_patterns]
          cases normalPatterns elements <;> rfl
      | record cls matchers =>
          cases declared
          rw [normal, Pattern.normal, Table.traverse, Pattern.fields, List.mapM_cons,
            List.mapM_cons]
          simp only [normal]
          rw [normalItems_matchers]
          cases normalMatchers matchers <;> rfl
      | abstract => cases declared
  | _ => cases declared

theorem sameContent_record (declared : v.dataFields? = some fields) (distinct : fields.Distinct) :
    SameContent v (.dict false (Signature.keywordEntries fields)) := by
  refine .of_normal (dataFields_compound declared) trivial ?_
  rw [normal_of_dataFields declared, normal, normalEntries_keywordEntries]
  cases traversed : fields.traverse normal with
  | error fault => exact .error fault fault
  | ok members =>
      have gathered := Datum.ofMembers_of_distinct (distinct.traverse traversed)
      refine .ok ?_
      rw [gathered]

theorem SameContent.of_readable {refusals : Refusals} (content : SameContent v w)
    (unneeded : ∀ outer, ∀ name ∈ v.reads outer, refusals.fault? (.attribute name) = none) :
    SameContent (.refusing refusals v) w where
  normal := content.normal.given (fun d => normal_refusing_eq_ok_iff)
    fun e => (and_iff_right (unneeded false)).symm
  fragment := by
    intro text
    rw [fragment_refusing_eq_ok_iff, ← content.fragment]
    exact and_iff_right (unneeded true)

theorem Recast.sameContent (recast : Recast v w) : SameContent v w := by
  induction recast with
  | member cls name content => exact sameContent_value cls name content
  | tuple items => exact .of_normal trivial trivial (.refl Datum.Same.refl _)
  | frozenSet perm =>
      have unfrozen := (similar_set_of_perm false perm).content
      exact .of_normal trivial trivial unfrozen.normal
  | view entries => exact .of_normal trivial trivial (.refl Datum.Same.refl _)
  | reorderedView apart perm =>
      have reordered := (similar_dict_of_perm false apart perm).content
      exact .of_normal trivial trivial reordered.normal
  | record declared distinct => exact sameContent_record declared distinct
  | refusing inner unneeded content => exact content.of_readable unneeded

theorem Recarried.sameContent (recarried : Recarried ReadAlike v w) : SameContent v w := by
  induction recarried with
  | here recast => exact recast.sameContent
  | part _ exchanged kept content => exact content.exchanged exchanged kept.1 kept.2
  | aside _ exchanged kept _ => exact exchanged.sameContent kept.2

theorem fragment_recarried (recarried : Relation.ReflTransGen (Recarried ReadAlike) v w) :
    Concur v.fragment w.fragment := by
  induction recarried with
  | refl => exact .refl _
  | tail _ step ih => exact ih.trans step.sameContent.fragment

/-- A view of a mapping holds a record, with a member of an enumeration in a tuple and a field
that was never set. -/
theorem fragment_recarried_filter :
    let new : Value := .member (.text "new") "Tag" "NEW" (.text "new")
    let filter (tags : Value) : Value := .data "Filter" [("tags", tags)] ["page"]
    let query (readOnly : Bool) (form : Value) : Value := .dict readOnly [(.text "by", form)]
    let plain : Value :=
      .dict false [(.text "tags", .list [.text "new", .null]), (.text "page", .null)]
    let left := query true (filter (.tuple [new, .null]))
    let right := query false plain
    Relation.ReflTransGen (Recarried ReadAlike) left right ∧
      Concur left.fragment right.fragment := by
  intro new filter query plain left right
  have alike : ∀ tags others, ReadAlike (filter tags) (filter others) :=
    fun tags others => ⟨id, rfl⟩
  have around : ∀ readOnly v w, ReadAlike (query readOnly v) (query readOnly w) :=
    fun readOnly v w => ⟨id, rfl⟩
  have value : Recast new (.text "new") :=
    .member "Tag" "NEW" fun s content => by cases content; rfl
  have inTags : Recarried ReadAlike (.tuple [new, .null]) (.tuple [.text "new", .null]) :=
    .part (.here value) (.tupleItem [] [_]) ⟨id, rfl⟩
  have member : Recarried ReadAlike left (query true (filter (.tuple [.text "new", .null]))) :=
    .part (.part inTags (.dataField "Filter" "tags" [] [] ["page"]) (alike _ _))
      (.entry true [] [] (.text "by")) (around true _ _)
  have tuple : Recarried ReadAlike (query true (filter (.tuple [.text "new", .null])))
      (query true (filter (.list [.text "new", .null]))) :=
    .part (.part (.here (.tuple _)) (.dataField "Filter" "tags" [] [] ["page"]) (alike _ _))
      (.entry true [] [] (.text "by")) (around true _ _)
  have declared : (filter (.list [.text "new", .null])).dataFields? =
      some [("tags", .list [.text "new", .null]), ("page", .null)] := rfl
  have record : Recarried ReadAlike (query true (filter (.list [.text "new", .null])))
      (query true plain) :=
    .part (.here (.record declared (by decide))) (.entry true [] [] (.text "by"))
      (around true _ _)
  have view : Recarried ReadAlike (query true plain) right := .here (.view _)
  have steps := (((Relation.ReflTransGen.single member).tail tuple).tail record).tail view
  exact ⟨steps, fragment_recarried steps⟩

/-- A report whose class refuses to dump it is shown with its tuple, and a class that is asked for
a dump is not asked where a member of an enumeration holds it. -/
theorem carrier_shown_or_asked :
    let shown (tags : Value) : Value :=
      .named "Report" [("model_dump", .scalar (.kind .int)), ("tags", tags)]
    let asked (maker : Value) : Value := .named "Report" [("model_dump", maker)]
    let form : Value := .member .plain "Form" "MAP" (.scalar (.kind .dict))
    (Recarried (fun _ _ => True) (shown (.tuple [.null])) (shown (.list [.null])) ∧
      (shown (.tuple [.null])).fragment = .ok "Report(model_dump=<class 'int'>, tags=(None,))" ∧
      (shown (.list [.null])).fragment = .ok "Report(model_dump=<class 'int'>, tags=[None])") ∧
    Recarried (fun _ _ => True) (asked form) (asked (.scalar (.kind .dict))) ∧
      (asked form).fragment = .ok "[\"<class 'dict'>\"]" ∧
      (asked (.scalar (.kind .dict))).fragment = .ok "\x7b\"mode\":\"json\"\x7d" := by
  intro shown asked form
  have tuple : Recarried (fun _ _ => True) (shown (.tuple [.null])) (shown (.list [.null])) :=
    .part (.here (.tuple _)) (.namedField "Report" "tags" [_] []) trivial
  have member : Recarried (fun _ _ => True) (asked form) (asked (.scalar (.kind .dict))) :=
    .part (.here (.member "Form" "MAP" fun s content => by cases content))
      (.namedField "Report" "model_dump" [] []) trivial
  exact ⟨⟨tuple, rfl, rfl⟩, member, rfl, by cbv⟩

end Value

end CachePolicy
