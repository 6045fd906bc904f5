import CachePolicy.Proofs.Key.Similar

/-!
# Wholes told apart by a part

The plain form of a list, a tuple, a set, a record or a member that is no scalar is made of
those of its parts alone.  Wholes that differ in one part have the same plain form only if the parts
have.  Lists and maps are printed as they are, so their texts differ as well.
-/

namespace CachePolicy

/-- Data that are printed as they are, whatever value they were made of. -/
def Datum.Collected : Datum → Prop
  | .list _ | .map _ => True
  | _ => False

namespace Value

variable {v w x y : Value} {d e : Datum}

/-- The plain form is made of those of the parts, which no names of keys decide about. -/
def Parted : Value → Prop
  | .dict _ _ => False
  | .named _ fields => (Table.get? fields dumpName).bind dumped? = none
  | .object _ attributes _ _ _ => Table.get? attributes dumpName = none
  | .member mixin _ _ _ => mixin.normal? false = none
  | .refusing _ value => value.Parted
  | _ => True

theorem Parted.not_displayed (parted : v.Parted) : ¬ v.Displayed := by
  induction v using Value.inductRefusing with
  | refusing more value ih => exact ih parted
  | named cls fields =>
      intro displayed
      cases displayed.symm.trans parted
  | _ => exact id

theorem normal_object_of_parted {words : Option String} {attributes : List (String × Value)}
    {equality : Hook Value} {untestable : Bool} {dump : Hook Value}
    (parted : (object words attributes equality untestable dump).Parted) :
    (object words attributes equality untestable (.gives x)).normal = x.normal := by
  have inherited : Table.get? attributes dumpName = none := parted
  rw [normal, Refusals.allow_nil_bind, inherited]
  exact normalDump_getD x _

theorem normal_member_of_parted {mixin : Mixin} {cls name : String}
    (parted : (member mixin cls name x).Parted) (y : Value) :
    (member mixin cls name y).normal = y.normal := by
  have plain : mixin.normal? false = none := parted
  rw [normal, plain]
  exact Refusals.allow_nil_bind _

theorem normal_set_eq_ok_iff {frozen : Bool} {items : List Value} :
    (set frozen items).normal = .ok d ↔
      ∃ ds sorted, normalItems items = .ok ds ∧ sortedItems ds = .ok sorted ∧ .list sorted = d := by
  rw [normal, Refusals.allow_nil_bind]
  simp only [bind_eq_ok_iff, exists_and_left, pure, Except.pure, Except.ok.injEq]

theorem same_of_items {front back : List Value} {ds es : List Datum}
    (left : normalItems (front ++ x :: back) = .ok ds)
    (right : normalItems (front ++ y :: back) = .ok es)
    (related : List.Forall₂ (Datum.Same true) ds es) :
    ∃ a b, x.normal = .ok a ∧ y.normal = .ok b ∧ Datum.Same true a b := by
  rw [normalItems_eq_mapM] at left right
  obtain ⟨before, a, b, behind, -, -, here, here', rfl, rfl⟩ := mapM_exchanged left right
  exact ⟨a, b, here, here', forall₂_middle rfl related⟩

theorem eq_of_perm_middle {α : Type} {before behind : List α} {a b : α}
    (perm : (before ++ a :: behind).Perm (before ++ b :: behind)) : a = b := by
  have moved : (a :: (before ++ behind)).Perm (b :: (before ++ behind)) :=
    List.perm_middle.symm.trans (perm.trans List.perm_middle)
  have front : ([a] ++ (before ++ behind)).Perm ([b] ++ (before ++ behind)) := moved
  exact List.singleton_perm_singleton.mp ((List.perm_append_right_iff _).mp front)

theorem same_of_elements {front back : List Value} {ds es sorted sorted' : List Datum}
    (left : normalItems (front ++ x :: back) = .ok ds)
    (right : normalItems (front ++ y :: back) = .ok es)
    (inOrder : sortedItems ds = .ok sorted) (inOrder' : sortedItems es = .ok sorted')
    (related : List.Forall₂ (Datum.Same true) sorted sorted') :
    ∃ a b, x.normal = .ok a ∧ y.normal = .ok b ∧ Datum.Same true a b := by
  rw [normalItems_eq_mapM] at left right
  obtain ⟨before, a, b, behind, -, -, here, here', rfl, rfl⟩ := mapM_exchanged left right
  -- the elements that both sets have cancel, wherever sorting has put them
  have texts : sorted.map (Datum.written Datum.compact) =
      sorted'.map (Datum.written Datum.compact) :=
    map_eq_map_of_forall₂ related fun d _ e same => Datum.Same.written same
  have perm : ((before ++ a :: behind).map (Datum.written Datum.compact)).Perm
      ((before ++ b :: behind).map (Datum.written Datum.compact)) :=
    ((perm_of_sortedItems inOrder).symm.map _).trans
      (texts ▸ (perm_of_sortedItems inOrder').map _)
  rw [List.map_append, List.map_append, List.map_cons, List.map_cons] at perm
  have same := eq_of_perm_middle perm
  exact ⟨a, b, here, here', (Datum.same_iff_written Datum.compact rfl).mpr same⟩

theorem same_of_fields {front back : List (String × Value)} {name : String}
    {members members' : Table String Datum}
    (left : normalFields (front ++ (name, x) :: back) = .ok members)
    (right : normalFields (front ++ (name, y) :: back) = .ok members') :
    ∃ before a b behind, x.normal = .ok a ∧ y.normal = .ok b ∧
      members = before ++ (name, a) :: behind ∧ members' = before ++ (name, b) :: behind := by
  rw [normalFields_eq_mapM] at left right
  obtain ⟨before, _, _, behind, -, -, here, here', rfl, rfl⟩ := mapM_exchanged left right
  obtain ⟨a, value, rfl⟩ := map_eq_ok_iff.mp here
  obtain ⟨b, value', rfl⟩ := map_eq_ok_iff.mp here'
  exact ⟨before, a, b, behind, value, value', rfl, rfl⟩

end Value

theorem Datum.Same.only_member {name : String} {d e : Datum}
    (same : Same true (.map [(name, d)]) (.map [(name, e)])) : Same true d e := by
  cases same.alike rfl with
  | cons here rest => exact here.2

theorem Datum.Same.last_member {name other : String} {c d e : Datum}
    (same : Same true (.map [(other, c), (name, d)]) (.map [(other, c), (name, e)])) :
    Same true d e := by
  cases same.alike rfl with
  | cons first rest => exact (List.forall₂_cons.mp rest).1.2

theorem Pattern.Exchanged.same_part {x y : Value} {p q : Pattern} {d e : Datum}
    (exchanged : p.Exchanged x y q) (left : p.normal = .ok d) (right : q.normal = .ok e)
    (same : Datum.Same true d e) :
    ∃ a b, x.normal = .ok a ∧ y.normal = .ok b ∧ Datum.Same true a b := by
  induction exchanged generalizing d e with
  | exact =>
      obtain ⟨a, value, rfl⟩ := map_eq_ok_iff.mp left
      obtain ⟨b, value', rfl⟩ := map_eq_ok_iff.mp right
      exact ⟨a, b, value, value', same.only_member⟩
  | element inner front back ih =>
      obtain ⟨ds, made, rfl⟩ := map_eq_ok_iff.mp left
      obtain ⟨es, made', rfl⟩ := map_eq_ok_iff.mp right
      rw [normalPatterns_eq_mapM] at made made'
      obtain ⟨before, a, b, behind, -, -, here, here', rfl, rfl⟩ := mapM_exchanged made made'
      cases same.only_member with
      | list related => exact ih here here' (forall₂_middle rfl related)
  | field inner cls name front back ih =>
      obtain ⟨ds, made, rfl⟩ := map_eq_ok_iff.mp left
      obtain ⟨es, made', rfl⟩ := map_eq_ok_iff.mp right
      rw [normalMatchers_eq_mapM] at made made'
      obtain ⟨before, _, _, behind, -, -, here, here', rfl, rfl⟩ := mapM_exchanged made made'
      obtain ⟨a, inside, rfl⟩ := map_eq_ok_iff.mp here
      obtain ⟨b, inside', rfl⟩ := map_eq_ok_iff.mp here'
      cases same.last_member with
      | list related =>
          cases forall₂_middle rfl related with
          | list field =>
              exact ih inside inside' (List.forall₂_cons.mp (List.forall₂_cons.mp field).2).1

theorem Pattern.Exchanged.symm {x y : Value} {p q : Pattern} (exchanged : p.Exchanged x y q) :
    q.Exchanged y x p := by
  induction exchanged with
  | exact => exact .exact
  | element _ front back ih => exact .element ih front back
  | field _ cls name front back ih => exact .field ih cls name front back

namespace Value

variable {v w x y : Value} {d e : Datum}

/-- Wholes that are the same are made of parts that are the same. -/
theorem Exchanged.same_part (exchanged : Exchanged x y v w) (parted : v.Parted)
    (asked : x.dumped? = y.dumped?) (left : v.normal = .ok d) (right : w.normal = .ok e)
    (same : Datum.Same true d e) :
    ∃ a b, x.normal = .ok a ∧ y.normal = .ok b ∧ Datum.Same true a b := by
  induction exchanged generalizing d e with
  | listItem front back =>
      obtain ⟨ds, made, rfl⟩ := map_eq_ok_iff.mp left
      obtain ⟨es, made', rfl⟩ := map_eq_ok_iff.mp right
      cases same with
      | list related => exact same_of_items made made' related
  | tupleItem front back =>
      obtain ⟨ds, made, rfl⟩ := map_eq_ok_iff.mp left
      obtain ⟨es, made', rfl⟩ := map_eq_ok_iff.mp right
      cases same with
      | list related => exact same_of_items made made' related
  | element frozen front back =>
      obtain ⟨ds, sorted, made, inOrder, rfl⟩ := normal_set_eq_ok_iff.mp left
      obtain ⟨es, sorted', made', inOrder', rfl⟩ := normal_set_eq_ok_iff.mp right
      cases same with
      | list related => exact same_of_elements made made' inOrder inOrder' related
  | key readOnly front back value => exact parted.elim
  | entry readOnly front back k => exact parted.elim
  | member mixin cls name =>
      rw [normal_member_of_parted parted] at left right
      exact ⟨d, e, left, right, same⟩
  | dataField cls name front back missing =>
      rw [normal_data] at left right
      obtain ⟨members, made, rfl⟩ := map_eq_ok_iff.mp left
      obtain ⟨members', made', rfl⟩ := map_eq_ok_iff.mp right
      obtain ⟨before, a, b, behind, value, value', rfl, rfl⟩ := same_of_fields made made'
      have alike := same.alike (by simp)
      rw [List.append_assoc, List.append_assoc] at alike
      exact ⟨a, b, value, value', (forall₂_middle rfl alike).2⟩
  | namedField cls name front back =>
      have undumped : (Table.get? (front ++ (name, x) :: back) dumpName).bind dumped? = none :=
        parted
      have undumped' := (dumped?_under asked name dumpName front back).symm.trans undumped
      rw [normal, Refusals.allow_nil_bind, undumped] at left
      rw [normal, Refusals.allow_nil_bind, undumped'] at right
      obtain ⟨members, made, rfl⟩ := map_eq_ok_iff.mp left
      obtain ⟨members', made', rfl⟩ := map_eq_ok_iff.mp right
      obtain ⟨before, a, b, behind, value, value', rfl, rfl⟩ := same_of_fields made made'
      cases same with
      | list related =>
          rw [List.forall₂_map_left_iff, List.forall₂_map_right_iff] at related
          exact ⟨a, b, value, value',
            forall₂_middle (R := fun a b : String × Datum => Datum.Same true a.2 b.2) rfl related⟩
  | dump words attributes equality untestable =>
      rw [normal_object_of_parted parted] at left
      rw [normal_object_of_parted parted] at right
      exact ⟨d, e, left, right, same⟩
  | looked status =>
      obtain ⟨a, value, rfl⟩ := map_eq_ok_iff.mp left
      obtain ⟨b, value', rfl⟩ := map_eq_ok_iff.mp right
      exact ⟨a, b, value, value', same.last_member⟩
  | pattern inner => exact inner.same_part left right same
  | refusing refusals inner ih =>
      exact ih parted (normal_of_refusing left) (normal_of_refusing right) same

theorem Exchanged.symm (exchanged : Exchanged x y v w) : Exchanged y x w v := by
  induction exchanged with
  | pattern inner => exact .pattern inner.symm
  | refusing refusals inner ih => exact .refusing refusals ih
  | _ => constructor

theorem Exchanged.dumped?_eq_none (exchanged : Exchanged x y v w) : v.dumped? = none := by
  induction exchanged with
  | refusing refusals inner ih => exact ih
  | _ => rfl

theorem Exchanged.parted_iff (exchanged : Exchanged x y v w) (asked : x.dumped? = y.dumped?) :
    v.Parted ↔ w.Parted := by
  induction exchanged with
  | namedField cls name front back =>
      simp only [Parted]
      rw [dumped?_under asked name dumpName front back]
  | refusing refusals inner ih => exact ih
  | _ => exact Iff.rfl

/-- A list or a map is what it is wherever it stands. -/
theorem normal_of_outer (v : Value) {refusals : Refusals}
    (outer : v.normal true refusals = .ok d) :
    ∃ e, v.normal false refusals = .ok e ∧ (e.Collected → e = d) := by
  cases v with
  | member mixin cls name value =>
      cases mixin with
      | plain =>
          obtain ⟨readable, inside⟩ := Refusals.allow_bind_eq_ok_iff.mp outer
          obtain ⟨e, made, same⟩ := normal_of_outer value inside
          exact ⟨e, Refusals.allow_bind_eq_ok_iff.mpr ⟨readable, made⟩, same⟩
      | _ => exact ⟨_, rfl, False.elim⟩
  | refusing more value => exact normal_of_outer value outer
  | _ => exact ⟨d, outer, fun _ => rfl⟩

theorem fragmentOf_of_collected (v : Value) (normal : v.normal = .ok d)
    (collected : d.Collected) : v.fragmentOf d = d.print Datum.compact := by
  cases v with
  | member mixin cls name inner =>
      cases mixin with
      | plain => exact fragmentOf_of_collected inner normal collected
      | _ => cases normal; exact collected.elim
  | refusing more value => exact fragmentOf_of_collected value (normal_of_refusing normal) collected
  | scalar s =>
      cases s with
      | account id tags => cases normal; rfl
      | _ => cases normal; exact collected.elim
  | _ =>
      cases d with
      | list items => rfl
      | map members => rfl
      | _ => exact collected.elim

/-- The plain form is a list or a map. -/
def Collects (v : Value) : Prop := ∀ d, v.normal = .ok d → d.Collected

theorem Exchanged.collects (exchanged : Exchanged x y v w) (parted : v.Parted)
    (part : x.Collects) : v.Collects := by
  intro d normal
  induction exchanged with
  | key readOnly front back value => exact parted.elim
  | entry readOnly front back k => exact parted.elim
  | member mixin cls name =>
      rw [normal_member_of_parted parted] at normal
      exact part d normal
  | dump words attributes equality untestable =>
      rw [normal_object_of_parted parted] at normal
      exact part d normal
  | refusing refusals inner ih => exact ih parted (normal_of_refusing normal)
  | dataField cls name front back missing =>
      rw [normal_data] at normal
      obtain ⟨members, -, rfl⟩ := map_eq_ok_iff.mp normal
      trivial
  | namedField cls name front back =>
      rw [Value.normal, Refusals.allow_nil_bind,
        show (Table.get? (front ++ (name, x) :: back) dumpName).bind dumped? = none
          from parted] at normal
      obtain ⟨members, -, rfl⟩ := map_eq_ok_iff.mp normal
      trivial
  | element frozen front back =>
      obtain ⟨ds, sorted, -, -, rfl⟩ := normal_set_eq_ok_iff.mp normal
      trivial
  | pattern inner =>
      cases inner <;>
      · obtain ⟨_, -, rfl⟩ := map_eq_ok_iff.mp normal
        trivial
  | _ =>
      obtain ⟨_, -, rfl⟩ := map_eq_ok_iff.mp normal
      trivial

def PlainApart (v w : Value) : Prop :=
  ∀ d e, v.normal = .ok d → w.normal = .ok e → ¬ Datum.Same true d e

theorem Collects.of_fragment {name : String} (collects : v.Collects)
    (written : v.fragment = .ok name) :
    ∃ d, v.normal = .ok d ∧ d.print Datum.compact = .ok name := by
  obtain ⟨d, outer, printed⟩ := bind_eq_ok_iff.mp written
  obtain ⟨e, normal, same⟩ := normal_of_outer v outer
  obtain rfl := same (collects e normal)
  rw [fragmentOf_of_collected v normal (collects e normal)] at printed
  exact ⟨e, normal, printed⟩

/-- One text for two wholes that are printed as they are can be read in one way only. -/
theorem same_of_fragment {name : String} (left : v.Collects) (right : w.Collects)
    (first : v.fragment = .ok name) (second : w.fragment = .ok name) :
    ∃ d e, v.normal = .ok d ∧ w.normal = .ok e ∧ Datum.Same true d e := by
  obtain ⟨d, normal, printed⟩ := left.of_fragment first
  obtain ⟨e, normal', printed'⟩ := right.of_fragment second
  obtain ⟨cs, chars, rfl⟩ := map_eq_ok_iff.mp printed
  obtain ⟨cs', chars', same⟩ := map_eq_ok_iff.mp printed'
  obtain rfl := String.ofList_injective same
  have written := (Datum.chars_eq_ok_iff.mp chars).2
  have written' := (Datum.chars_eq_ok_iff.mp chars').2
  have related : Datum.Same true d e :=
    (Datum.same_iff_written Datum.compact rfl).mpr (written.symm.trans written')
  exact ⟨d, e, normal, normal', related⟩

theorem fragment_apart {name : String} (left : v.Collects) (right : w.Collects)
    (apart : PlainApart v w) (first : v.fragment = .ok name) : w.fragment ≠ .ok name := by
  intro second
  obtain ⟨d, e, normal, normal', same⟩ := same_of_fragment left right first second
  exact apart d e normal normal' same

end Value

end CachePolicy
