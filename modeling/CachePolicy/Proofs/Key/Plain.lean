import CachePolicy.Proofs.Datum.Reading
import CachePolicy.Proofs.Key.Reads

/-!
# Plain forms part by part

The plain form of a container is made of those of its parts in their sequence.  Of a set
the parts are sorted by their texts, and of a mapping they are named by the fragments of
its keys, so entries are kept apart if the fragments of their keys are.
-/

namespace CachePolicy

/-! ## The same data -/

namespace Datum

theorem Same.overlong_iff {sorted : Bool} {d e : Datum} (same : Same sorted d e) :
    d.Overlong ↔ e.Overlong := by
  induction d generalizing e with
  | float x => cases same; exact iff_of_false nofun nofun
  | list items each =>
      cases same with
      | list related =>
          rw [overlong_list_iff, overlong_list_iff]
          exact exists_mem_iff_of_forall₂ related fun d member e same => each d member same
  | map members each =>
      cases same with
      | @map _ others names values =>
          have inOrder : ∀ members, (Datum.map members).Overlong ↔
              ∃ member ∈ laid sorted members, member.2.Overlong := by
            intro members
            rw [overlong_map_iff]
            simp only [(laid_perm sorted members).mem_iff]
          rw [inOrder, inOrder]
          refine exists_mem_iff_of_forall₂ (Table.Alike.of_parts names values) ?_
          intro member held other same
          exact each member ((laid_perm _ _).mem_iff.mp held) same.2
  | _ => cases same; exact Iff.rfl

theorem Same.chars_concur {d e : Datum} (style : Style) (same : Same style.sorted d e) :
    Concur (d.chars style) (e.chars style) := by
  intro cs
  rw [chars_eq_ok_iff, chars_eq_ok_iff, same.overlong_iff, same.written]

/-- The fragment of data, where the value it was made of does not decide about it. -/
def fragment : Datum → Except Fault String
  | text s => .ok s
  | d => d.print compact

theorem Same.fragment_concur {d e : Datum} (same : Same true d e) :
    Concur d.fragment e.fragment := by
  have printed : Concur (d.print compact) (e.print compact) :=
    Concur.bind (same.chars_concur compact) _
  cases same with
  | text s => exact .refl _
  | _ => exact printed

theorem same_map {members others : Table String Datum}
    (alike : Table.Alike (Same true) members others) : Same true (map members) (map others) :=
  .map (alike_laid true alike).keys (alike_laid true alike).values

/-- Members under the same names in the same sequence are the same one by one. -/
theorem Same.alike {members others : Table String Datum}
    (same : Same true (.map members) (.map others))
    (names : members.map Prod.fst = others.map Prod.fst) :
    Table.Alike (Same true) members others := by
  -- both are what is made of one list of named pairs, which is laid out in one way
  obtain ⟨pairs, rfl, rfl⟩ : ∃ pairs : List (String × Datum × Datum),
      pairs.map (fun pair => (pair.1, pair.2.1)) = members ∧
        pairs.map (fun pair => (pair.1, pair.2.2)) = others := by
    clear same
    induction members generalizing others with
    | nil =>
        obtain rfl := List.map_eq_nil_iff.mp names.symm
        exact ⟨[], rfl, rfl⟩
    | cons member members ih =>
        obtain ⟨other, others, rfl, name, names⟩ := List.map_eq_cons_iff.mp names.symm
        obtain ⟨pairs, rfl, rfl⟩ := ih names.symm
        exact ⟨(member.1, member.2, other.2) :: pairs, rfl, by rw [List.map_cons, ← name]⟩
  cases same with
  | map names values =>
      have inOrder := Table.Alike.of_parts names values
      rw [laid_map true Prod.fst, laid_map true Prod.snd] at inOrder
      have each := List.forall₂_same.mp
        (List.forall₂_map_left_iff.mp (List.forall₂_map_right_iff.mp inOrder))
      refine List.forall₂_map_left_iff.mpr (List.forall₂_map_right_iff.mpr ?_)
      exact List.forall₂_same.mpr fun pair held => each pair ((laid_perm _ _).mem_iff.mpr held)

theorem Same.get? {members others : Table String Datum}
    (same : Same true (.map members) (.map others)) (distinct : members.Distinct)
    (distinct' : others.Distinct) (name : String) :
    Option.Rel (Same true) (members.get? name) (others.get? name) := by
  cases same with
  | map names values =>
      have found := (Table.Alike.of_parts names values).get? name
      rwa [distinct.get?_perm (laid_perm true members).symm,
        distinct'.get?_perm (laid_perm true others).symm] at found

theorem Same.get?_eq_none_iff {members others : Table String Datum}
    (same : Same true (.map members) (.map others)) (distinct : members.Distinct)
    (distinct' : others.Distinct) (name : String) :
    members.get? name = none ↔ others.get? name = none := by
  have found := same.get? distinct distinct' name
  generalize members.get? name = held?, others.get? name = other? at found ⊢
  cases found with
  | none => exact Iff.rfl
  | some => exact iff_of_false nofun nofun

theorem same_ofMembers {members others : Table String Datum}
    (alike : Table.Alike (Same true) members others) :
    Same true (ofMembers members) (ofMembers others) := by
  rw [ofMembers_eq_ofEntries, ofMembers_eq_ofEntries]
  exact same_map alike.ofEntries

theorem same_ofMembers_of_perm {members others : Table String Datum} (distinct : members.Distinct)
    (perm : members.Perm others) : Same true (ofMembers members) (ofMembers others) := by
  rw [ofMembers_of_distinct distinct, ofMembers_of_distinct (distinct.perm perm)]
  have same : laid true members = laid true others := laid_of_perm distinct perm
  exact .map (by rw [same]) (by rw [same]; exact List.forall₂_same.mpr fun d _ => .refl d)

end Datum

theorem mapM_keyed {α β : Type} (f : α → Except Fault β) (items : List α) :
    (items.mapM fun a => do return (← f a, a)) = do return (← items.mapM f).zip items := by
  induction items with
  | nil => rfl
  | cons a rest ih =>
      rw [List.mapM_cons, List.mapM_cons, ih]
      simp

/-- The elements of a set are sorted by their texts, if they can all be written. -/
theorem sortedItems_eq (ds : List Datum) :
    sortedItems ds = do
      let _ ← ds.mapM (Datum.chars Datum.sorting)
      return ds.mergeSort fun d e =>
        Datum.charsLe (d.written Datum.sorting) (e.written Datum.sorting) := by
  rw [sortedItems, mapM_keyed]
  cases printed : ds.mapM (Datum.chars Datum.sorting) with
  | error fault => rfl
  | ok texts =>
      obtain rfl := eq_map_of_mapM printed fun d _ cs => Datum.eq_written_of_chars
      have keyed : (ds.map (Datum.written Datum.sorting)).zip ds =
          ds.map fun d => (d.written Datum.sorting, d) := by
        simpa using List.zip_map' (f := Datum.written Datum.sorting) (g := id) (l := ds)
      have sorted := List.map_mergeSort (l := ds) (f := fun d => (d.written Datum.sorting, d))
        (r := fun d e => Datum.charsLe (d.written Datum.sorting) (e.written Datum.sorting))
        (s := fun a b => Datum.charsLe a.1 b.1) fun _ _ _ _ => rfl
      refine congrArg Except.ok ?_
      rw [keyed, ← sorted, List.map_map]
      exact List.map_id _

theorem perm_of_sortedItems {ds sorted : List Datum} (made : sortedItems ds = .ok sorted) :
    sorted.Perm ds := by
  rw [sortedItems_eq] at made
  obtain ⟨_, -, rfl⟩ := map_eq_ok_iff.mp made
  exact List.mergeSort_perm _ _

theorem paired_sortedItems {ds es : List Datum} (related : List.Forall₂ (Datum.Same true) ds es) :
    Paired (List.Forall₂ (Datum.Same true)) (sortedItems ds) (sortedItems es) := by
  rw [sortedItems_eq, sortedItems_eq]
  have texts : List.Forall₂ (fun d e =>
      Paired Eq (d.chars Datum.sorting) (e.chars Datum.sorting)) ds es :=
    related.imp fun d e same => paired_eq_iff.mpr (Datum.Same.chars_concur Datum.sorting same)
  refine (Paired.mapM texts).map fun _ _ _ => ?_
  exact Datum.forall₂_mergeSort related fun d e same => same.written

theorem paired_sortedItems_of_perm {ds es : List Datum} (perm : ds.Perm es) :
    Paired (List.Forall₂ (Datum.Same true)) (sortedItems ds) (sortedItems es) := by
  rw [sortedItems_eq, sortedItems_eq]
  refine (paired_mapM_of_perm perm).map fun _ _ _ => ?_
  have texts := Datum.map_mergeSort_of_perm (Datum.written Datum.sorting) perm
  rw [← List.forall₂_eq_eq_eq, List.forall₂_map_left_iff, List.forall₂_map_right_iff] at texts
  exact texts.imp fun d e same => (Datum.same_iff_written Datum.sorting rfl).mpr same

/-! ## Parts in their sequence -/

theorem normalEntry_eq_ok_iff {entry : Value × Value} {member : String × Datum} :
    (do return (← entry.1.fragment, ← entry.2.normal)) = .ok member ↔
      entry.1.fragment = .ok member.1 ∧ entry.2.normal = .ok member.2 := by
  obtain ⟨name, d⟩ := member
  simp only [bind_eq_ok_iff, pure, Except.pure, Except.ok.injEq, Prod.mk.injEq]
  constructor
  · rintro ⟨_, key, _, value, rfl, rfl⟩
    exact ⟨key, value⟩
  · rintro ⟨key, value⟩
    exact ⟨name, key, d, value, rfl, rfl⟩

theorem normalEntries_eq_ok_iff {entries : List (Value × Value)} {members : Table String Datum} :
    normalEntries entries = .ok members ↔
      List.Forall₂ (fun entry member =>
        entry.1.fragment = .ok member.1 ∧ entry.2.normal = .ok member.2) entries members := by
  rw [normalEntries_eq_mapM, mapM_eq_ok_iff]
  simp only [normalEntry_eq_ok_iff]

/-! ## Keys apart -/

theorem exists_key_iff {entries : List (Value × Value)} {members : Table String Datum}
    (normal : normalEntries entries = .ok members) (name : String) :
    (∃ entry ∈ entries, entry.1.fragment = .ok name) ↔ ∃ member ∈ members, member.1 = name := by
  refine exists_mem_iff_of_forall₂ (normalEntries_eq_ok_iff.mp normal) ?_
  intro entry _ member made
  rw [made.1, Except.ok.injEq]

/-- No key of the entries has the fragment of this one. -/
def Value.Unshared (key : Value) (entries : List (Value × Value)) : Prop :=
  ∀ entry ∈ entries, ∀ name, key.fragment = .ok name → entry.1.fragment ≠ .ok name

theorem Value.unshared_iff {key : Value} {name : String} (written : key.fragment = .ok name)
    {entries : List (Value × Value)} {members : Table String Datum}
    (normal : normalEntries entries = .ok members) :
    key.Unshared entries ↔ ∀ member ∈ members, member.1 ≠ name := by
  have absent := not_congr (exists_key_iff normal name)
  push Not at absent
  rw [← absent]
  refine forall₂_congr fun entry _ => ⟨fun apart => apart name written, fun other => ?_⟩
  rintro name' written'
  cases written.symm.trans written'
  exact other

/-- No two of the entries have keys with one fragment. -/
def KeysApart (entries : List (Value × Value)) : Prop :=
  entries.Pairwise fun a b => ∀ name, a.1.fragment = .ok name → b.1.fragment ≠ .ok name

theorem keysApart_iff_distinct {entries : List (Value × Value)} {members : Table String Datum}
    (normal : normalEntries entries = .ok members) : KeysApart entries ↔ members.Distinct := by
  have each := normalEntries_eq_ok_iff.mp normal
  clear normal
  induction each with
  | nil => exact iff_of_true .nil .nil
  | @cons entry member entries members first rest ih =>
      have others : entry.1.Unshared entries ↔ member.1 ∉ members.map Prod.fst := by
        rw [Value.unshared_iff first.1 (normalEntries_eq_ok_iff.mpr rest), List.mem_map,
          not_exists]
        exact forall_congr' fun other => by rw [not_and]
      rw [KeysApart, List.pairwise_cons, Table.Distinct, List.map_cons, List.nodup_cons]
      exact and_congr others ih

theorem Value.unshared_singleton {k : Value} {entry : Value × Value} (name other : String)
    (written : k.fragment = .ok name) (written' : entry.1.fragment = .ok other)
    (different : name ≠ other) : k.Unshared [entry] := by
  intro only listed
  obtain rfl := List.mem_singleton.mp listed
  rintro same first second
  rw [written, Except.ok.injEq] at first
  rw [written', Except.ok.injEq] at second
  exact different (first.trans second.symm)

theorem keysApart_pair {a b : Value × Value} (name other : String)
    (first : a.1.fragment = .ok name) (second : b.1.fragment = .ok other)
    (different : name ≠ other) : KeysApart [a, b] :=
  .cons (Value.unshared_singleton name other first second different)
    (List.pairwise_singleton _ _)

end CachePolicy
