import CachePolicy.Proofs.Key.Parts
import CachePolicy.Value.Equality

/-!
# Entries that a plain form keeps

The entries of a mapping are named by the fragments of their keys, and of two entries
with one name the later is kept.  A mapping therefore loses entries exactly if two of
its keys have one fragment.  A change of an entry that is kept shows in the plain form of
the mapping, and from there in that of every value around it.
-/

namespace CachePolicy

namespace Value

variable {v w x y : Value} {d e : Datum}

/-! ## Mappings -/

theorem normal_dict_eq_ok_iff {readOnly : Bool} {entries : List (Value × Value)} :
    (dict readOnly entries).normal = .ok d ↔
      ∃ members, normalEntries entries = .ok members ∧ d = .map (Table.ofEntries members) := by
  rw [normal, Refusals.allow_nil_bind, Refusals.allow_nil_bind]
  simp only [bind_eq_ok_iff, pure, Except.pure, Except.ok.injEq, Datum.ofMembers_eq_ofEntries]
  exact exists_congr fun members => and_congr_right fun _ => eq_comm

theorem normal_dict_members {readOnly : Bool} {entries : List (Value × Value)}
    (normal : (dict readOnly entries).normal = .ok d) :
    ∃ members, d = .map members ∧
      (members.length = entries.length ↔ KeysApart entries) ∧
      (KeysApart entries → List.Forall₂ (fun entry member =>
        entry.1.fragment = .ok member.1 ∧ entry.2.normal = .ok member.2) entries members) := by
  obtain ⟨members, made, rfl⟩ := normal_dict_eq_ok_iff.mp normal
  have each := normalEntries_eq_ok_iff.mp made
  refine ⟨_, rfl, ?_, fun apart => ?_⟩
  · rw [keysApart_iff_distinct made, ← Table.length_ofEntries_eq_iff, each.length_eq]
  · rwa [Table.ofEntries_of_distinct ((keysApart_iff_distinct made).mp apart)]

theorem normal_dict_exchanged {readOnly : Bool} {front back : List (Value × Value)} {k l : Value}
    (left : (dict readOnly (front ++ (k, x) :: back)).normal = .ok d)
    (right : (dict readOnly (front ++ (l, y) :: back)).normal = .ok e) :
    ∃ before name a name' b behind,
      normalEntries front = .ok before ∧ normalEntries back = .ok behind ∧
      (k.fragment = .ok name ∧ x.normal = .ok a) ∧ (l.fragment = .ok name' ∧ y.normal = .ok b) ∧
      d = .map (Table.ofEntries (before ++ (name, a) :: behind)) ∧
      e = .map (Table.ofEntries (before ++ (name', b) :: behind)) := by
  obtain ⟨_, made, rfl⟩ := normal_dict_eq_ok_iff.mp left
  obtain ⟨_, made', rfl⟩ := normal_dict_eq_ok_iff.mp right
  rw [normalEntries_eq_mapM] at made made'
  obtain ⟨before, ⟨name, a⟩, ⟨name', b⟩, behind, first, rest, here, here', rfl, rfl⟩ :=
    mapM_exchanged made made'
  rw [← normalEntries_eq_mapM] at first rest
  exact ⟨before, name, a, name', b, behind, first, rest, normalEntry_eq_ok_iff.mp here,
    normalEntry_eq_ok_iff.mp here', rfl, rfl⟩

theorem same_of_entry {readOnly : Bool} {front back : List (Value × Value)} {k : Value}
    (last : k.Unshared back) (left : (dict readOnly (front ++ (k, x) :: back)).normal = .ok d)
    (right : (dict readOnly (front ++ (k, y) :: back)).normal = .ok e)
    (same : Datum.Same true d e) :
    ∃ a b, x.normal = .ok a ∧ y.normal = .ok b ∧ Datum.Same true a b := by
  obtain ⟨before, name, a, name', b, behind, -, rest, ⟨key, value⟩, ⟨key', value'⟩, rfl, rfl⟩ :=
    normal_dict_exchanged left right
  obtain rfl : name = name' := Except.ok.inj (key.symm.trans key')
  have later : ∀ member ∈ behind, member.1 ≠ name := (unshared_iff key rest).mp last
  have found := same.get? (Table.distinct_ofEntries _) (Table.distinct_ofEntries _) name
  rw [Table.get?_ofEntries_middle a later, Table.get?_ofEntries_middle b later] at found
  cases found with
  | some same => exact ⟨a, b, value, value', same⟩

theorem same_of_key {readOnly : Bool} {front back : List (Value × Value)} {k l : Value}
    (alone : k.Unshared (front ++ back) ∨ l.Unshared (front ++ back))
    (left : (dict readOnly (front ++ (k, v) :: back)).normal = .ok d)
    (right : (dict readOnly (front ++ (l, v) :: back)).normal = .ok e)
    (same : Datum.Same true d e) :
    ∃ name, k.fragment = .ok name ∧ l.fragment = .ok name := by
  obtain ⟨before, name, a, name', b, behind, first, rest, ⟨key, -⟩, ⟨key', -⟩, rfl, rfl⟩ :=
    normal_dict_exchanged left right
  have others : normalEntries (front ++ back) = .ok (before ++ behind) := by
    rw [normalEntries_eq_mapM] at first rest ⊢
    rw [List.mapM_append, first, rest]
    rfl
  have same : name = name' := by
    refine Table.key_eq_of_ofEntries ?_
      (same.get?_eq_none_iff (Table.distinct_ofEntries _) (Table.distinct_ofEntries _))
    exact alone.imp (unshared_iff key others).mp (unshared_iff key' others).mp
  exact ⟨name, key, same ▸ key'⟩

/-- An entry whose key has the fragment of a later one is not seen. -/
theorem normal_dict_of_later {readOnly : Bool} {front back : List (Value × Value)} {k : Value}
    {a b : Datum} (later : ¬ k.Unshared back) (left : x.normal = .ok a)
    (right : y.normal = .ok b) :
    (dict readOnly (front ++ (k, x) :: back)).normal =
      (dict readOnly (front ++ (k, y) :: back)).normal := by
  obtain ⟨name, key⟩ : ∃ name, k.fragment = .ok name := by
    by_contra unwritten
    exact later fun entry _ name written => (unwritten ⟨name, written⟩).elim
  rw [normal, normal, normalEntries_eq_mapM, normalEntries_eq_mapM, List.mapM_append,
    List.mapM_append, List.mapM_cons, List.mapM_cons, key, left, right, ← normalEntries_eq_mapM,
    ← normalEntries_eq_mapM]
  cases first : normalEntries front with
  | error fault => rfl
  | ok before =>
      cases rest : normalEntries back with
      | error fault => rfl
      | ok behind =>
          rw [unshared_iff key rest] at later
          push Not at later
          refine congrArg Except.ok ?_
          rw [Datum.ofMembers_eq_ofEntries, Datum.ofMembers_eq_ofEntries]
          exact congrArg Datum.map (Table.ofEntries_middle_of_later a b later)

theorem collects_dict (readOnly : Bool) (entries : List (Value × Value)) :
    (dict readOnly entries).Collects := by
  intro d normal
  obtain ⟨_, -, rfl⟩ := normal_dict_eq_ok_iff.mp normal
  trivial

/-! ## Mappings inside other values -/

/-- The second value is the first one with the part `x`, at any depth, exchanged for `y`.  The
values around it are read part by part, and no entry around it is lost. -/
inductive Within (x y : Value) : Value → Value → Prop
  | here : Within x y x y
  | entry (readOnly : Bool) (front : List (Value × Value)) {back : List (Value × Value)}
      {k v w : Value} (inner : Within x y v w) (last : k.Unshared back) :
      Within x y (.dict readOnly (front ++ (k, v) :: back))
        (.dict readOnly (front ++ (k, w) :: back))
  | key (readOnly : Bool) {front back : List (Value × Value)} (v : Value) {k l : Value}
      (inner : Within x y k l)
      (alone : k.Unshared (front ++ back) ∨ l.Unshared (front ++ back)) :
      Within x y (.dict readOnly (front ++ (k, v) :: back))
        (.dict readOnly (front ++ (l, v) :: back))
  | part {v w : Value} {whole whole' : Value} (inner : Within x y v w)
      (exchanged : Exchanged v w whole whole') (parted : whole.Parted) :
      Within x y whole whole'
  | refusing (refusals : Refusals) {v w : Value} (inner : Within x y v w) :
      Within x y (.refusing refusals v) (.refusing refusals w)

namespace Within

variable {readOnly : Bool} {entries others : List (Value × Value)}

theorem reads_eq (within : Within (.dict readOnly entries) (.dict readOnly others) v w)
    (outer : Bool) : v.reads outer = w.reads outer := by
  induction within with
  | part inner exchanged parted ih => exact exchanged.reads_eq outer
  | refusing refusals inner ih => exact ih
  | _ => rfl

theorem similar (within : Within (.dict readOnly entries) (.dict readOnly others) v w)
    (inside : Similar (.dict readOnly entries) (.dict readOnly others)) : Similar v w := by
  induction within with
  | here => exact inside
  | entry readOnly front inner last ih =>
      exact ih.exchanged (.entry readOnly front _ _) id
  | key readOnly v inner alone ih => exact ih.exchanged (.key readOnly _ _ v) id
  | part inner exchanged parted ih => exact ih.exchanged exchanged parted.not_displayed
  | refusing refusals inner ih => exact ih.refusing inner.reads_eq refusals

theorem asked (within : Within (.dict readOnly entries) (.dict readOnly others) v w) :
    v.dumped? = w.dumped? := by
  induction within with
  | part _ exchanged _ _ =>
      rw [exchanged.dumped?_eq_none, exchanged.symm.dumped?_eq_none]
  | refusing refusals inner ih => exact ih
  | _ => rfl

theorem collects (within : Within (.dict readOnly entries) (.dict readOnly others) v w) :
    v.Collects ∧ w.Collects := by
  induction within with
  | part inner exchanged parted ih =>
      have parted' := (exchanged.parted_iff inner.asked).mp parted
      exact ⟨exchanged.collects parted ih.1, exchanged.symm.collects parted' ih.2⟩
  | refusing refusals inner ih =>
      exact ⟨fun d normal => ih.1 d (normal_of_refusing normal),
        fun d normal => ih.2 d (normal_of_refusing normal)⟩
  | _ => exact ⟨collects_dict _ _, collects_dict _ _⟩

theorem plainApart (within : Within (.dict readOnly entries) (.dict readOnly others) v w)
    (apart : PlainApart (.dict readOnly entries) (.dict readOnly others)) : PlainApart v w := by
  induction within with
  | here => exact apart
  | entry readOnly front inner last ih =>
      intro d e left right same
      obtain ⟨a, b, value, value', inside⟩ := same_of_entry last left right same
      exact ih a b value value' inside
  | key readOnly v inner alone ih =>
      -- a mapping knows a key by its fragment, not by its plain form
      intro d e left right same
      obtain ⟨name, key, key'⟩ := same_of_key alone left right same
      exact fragment_apart inner.collects.1 inner.collects.2 ih key key'
  | part inner exchanged parted ih =>
      intro d e left right same
      obtain ⟨a, b, value, value', inside⟩ :=
        exchanged.same_part parted inner.asked left right same
      exact ih a b value value' inside
  | refusing refusals inner ih =>
      exact fun d e left right => ih d e (normal_of_refusing left) (normal_of_refusing right)

theorem fragment_ne_iff {front back : List (Value × Value)} {k : Value} {a b : Datum}
    {name name' : String} (left : x.normal = .ok a) (right : y.normal = .ok b)
    (differ : ¬ Datum.Same true a b)
    (within : Within (.dict readOnly (front ++ (k, x) :: back))
      (.dict readOnly (front ++ (k, y) :: back)) v w)
    (written : v.fragment = .ok name) (written' : w.fragment = .ok name') :
    name ≠ name' ↔ k.Unshared back := by
  constructor
  · intro different
    by_contra later
    have same : Similar (.dict readOnly (front ++ (k, x) :: back))
        (.dict readOnly (front ++ (k, y) :: back)) := by
      refine .of_normal trivial trivial ?_
      rw [normal_dict_of_later later left right]
      exact .refl Datum.Same.refl _
    rw [(within.similar same).fragment name, written', Except.ok.injEq] at written
    exact different written.symm
  · rintro last rfl
    have apart : PlainApart (.dict readOnly (front ++ (k, x) :: back))
        (.dict readOnly (front ++ (k, y) :: back)) := by
      intro d e plain plain' same
      obtain ⟨a', b', value, value', inside⟩ := same_of_entry last plain plain' same
      cases left.symm.trans value
      cases right.symm.trans value'
      exact differ inside
    exact fragment_apart within.collects.1 within.collects.2 (within.plainApart apart) written
      written'

end Within

/-- A mapping keeps every entry if and only if no two of its keys have one fragment, and the
value of an entry decides about the fragments of the mapping and of all values around it if and
only if no later key has the fragment of its key. -/
theorem entries_kept {readOnly : Bool} {entries : List (Value × Value)}
    (normal : (dict readOnly entries).normal = .ok d) :
    (∃ members, d = .map members ∧
      (members.length = entries.length ↔ KeysApart entries) ∧
      (KeysApart entries → List.Forall₂ (fun entry member =>
        entry.1.fragment = .ok member.1 ∧ entry.2.normal = .ok member.2) entries members)) ∧
    ∀ front k x back y a b, entries = front ++ (k, x) :: back →
      x.normal = .ok a → y.normal = .ok b → ¬ Datum.Same true a b →
        ∀ v w name name',
          Within (dict readOnly entries) (dict readOnly (front ++ (k, y) :: back)) v w →
            v.fragment = .ok name → w.fragment = .ok name' →
              (name ≠ name' ↔ k.Unshared back) := by
  refine ⟨normal_dict_members normal, ?_⟩
  rintro front k x back y a b rfl left right differ v w name name' within written written'
  exact within.fragment_ne_iff left right differ written written'

/-- The direction of the sorting in a filter of a query is dropped. -/
theorem entries_kept_query :
    let sorting (direction : Value) : List (Value × Value) :=
      [(.text "by", .flag true), (.text "to", direction)]
    let query (direction : Value) : Value :=
      .data "Query" [("all", .dict false
        [(.flag true, .list [.dict true (sorting direction)]), (.text "no", .null)])] []
    let shown : String :=
      "\x7b\"all\":\x7b\"no\":null,\"true\":[\x7b\"by\":true,\"to\":\"up\"\x7d]\x7d\x7d"
    let shown' : String :=
      "\x7b\"all\":\x7b\"no\":null,\"true\":[\x7b\"by\":true,\"to\":null\x7d]\x7d\x7d"
    (dict true (sorting (.text "up"))).normal =
        .ok (.map [("by", .flag true), ("to", .text "up")]) ∧
      KeysApart (sorting (.text "up")) ∧
      Within (dict true (sorting (.text "up"))) (dict true (sorting .null))
        (query (.text "up")) (query .null) ∧
      (query (.text "up")).fragment = .ok shown ∧ (query .null).fragment = .ok shown' ∧
      shown ≠ shown' := by
  intro sorting query shown shown'
  have normal : (dict true (sorting (.text "up"))).normal =
      .ok (.map [("by", .flag true), ("to", .text "up")]) := by cbv
  obtain ⟨⟨members, both, count, -⟩, decides⟩ := entries_kept normal
  have apart : KeysApart (sorting (.text "up")) := count.mp (by cases both; rfl)
  have last : (Value.flag true).Unshared [(.text "no", .null)] :=
    unshared_singleton "true" "no" (by cbv) rfl (by decide)
  have within : Within (dict true (sorting (.text "up"))) (dict true (sorting .null))
      (query (.text "up")) (query .null) :=
    .part (.entry false [] (.part .here (.listItem [] []) trivial) last)
      (.dataField "Query" "all" [] [] []) trivial
  have written : (query (.text "up")).fragment = .ok shown := by cbv
  have written' : (query .null).fragment = .ok shown' := by cbv
  have differ : ¬ Datum.Same true (.text "up") .null := by
    intro same
    cases same
  have behind : (Value.text "to").Unshared [] := by
    intro entry listed
    cases listed
  have different : shown ≠ shown' :=
    (decides [_] (.text "to") (.text "up") [] .null _ _ rfl rfl rfl differ _ _ _ _ within written
      written').mpr behind
  exact ⟨normal, apart, within, written, written', different⟩

/-- A flag and its name are unequal keys with one fragment.  The entry of the flag is lost, and
in the other order that of the name. -/
theorem flag_entry_lost :
    let answers (v : Value) : Value := .dict false [(.flag true, v), (.text "true", .text "b")]
    let turned : Value := .dict false [(.text "true", .text "b"), (.flag true, .text "a")]
    (Value.flag true).sameKey (.text "true") = false ∧
      (answers (.text "a")).normal = .ok (.map [("true", .text "b")]) ∧
      (Value.text "a").normal = .ok (.text "a") ∧ (Value.text "c").normal = .ok (.text "c") ∧
      (answers (.text "a")).fragment = .ok "\x7b\"true\":\"b\"\x7d" ∧
      (answers (.text "c")).fragment = .ok "\x7b\"true\":\"b\"\x7d" ∧
      (answers (.text "a")).equal turned = .ok true ∧
      turned.fragment = .ok "\x7b\"true\":\"a\"\x7d" := by
  intro answers turned
  exact ⟨rfl, by cbv, rfl, rfl, by cbv, by cbv, rfl, by cbv⟩

end Value

end CachePolicy
