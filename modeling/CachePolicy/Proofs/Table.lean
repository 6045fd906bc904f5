import CachePolicy.Table
import Mathlib.Data.List.Forall2
import Mathlib.Data.List.Induction
import Mathlib.Data.List.Perm.Subperm

/-!
# Entries of tables

What stands in a table after a write, entry by entry.  Reading a key gives the value of
an entry, and a write leaves the entries of other keys alone.  Where no key stands
twice the order of the entries does not matter, and two tables with the same keys stay
alike as long as alike values are written.
-/

namespace CachePolicy.Table

variable {κ ν : Type} [DecidableEq κ] {t : Table κ ν} {k : κ} {v : ν} {entry : κ × ν}

theorem mem_of_get? (found : t.get? k = some v) : (k, v) ∈ t := by
  induction t with
  | nil => simp at found
  | cons first rest ih =>
      rw [get?] at found
      split at found
      · rename_i same
        cases found
        exact same ▸ List.mem_cons_self
      · exact List.mem_cons_of_mem _ (ih found)

theorem mem_of_mem_put (member : entry ∈ t.put k v) : entry = (k, v) ∨ entry ∈ t := by
  induction t with
  | nil => exact .inl (List.mem_singleton.mp member)
  | cons first rest ih =>
      rw [put] at member
      split at member
      · rename_i same
        rcases List.mem_cons.mp member with rfl | member
        · exact .inl (by rw [same])
        · exact .inr (List.mem_cons_of_mem _ member)
      · rcases List.mem_cons.mp member with rfl | member
        · exact .inr List.mem_cons_self
        · exact (ih member).imp_right (List.mem_cons_of_mem _)

theorem mem_erase_iff : entry ∈ t.erase k ↔ entry ∈ t ∧ entry.1 ≠ k := by
  induction t with
  | nil => simp [erase]
  | cons first rest ih =>
      rw [erase]
      split
      · rename_i same
        rw [ih, List.mem_cons]
        constructor
        · rintro ⟨member, other⟩
          exact ⟨.inr member, other⟩
        · rintro ⟨rfl | member, other⟩
          · exact absurd same other
          · exact ⟨member, other⟩
      · rename_i different
        rw [List.mem_cons, List.mem_cons, ih]
        constructor
        · rintro (rfl | ⟨member, other⟩)
          · exact ⟨.inl rfl, different⟩
          · exact ⟨.inr member, other⟩
        · rintro ⟨rfl | member, other⟩
          · exact .inl rfl
          · exact .inr ⟨member, other⟩

theorem erase_eq_filter (t : Table κ ν) (k : κ) :
    t.erase k = t.filter fun entry => entry.1 ≠ k := by
  induction t with
  | nil => rfl
  | cons first rest ih =>
      by_cases same : first.1 = k
      · simp [erase, same, ih]
      · simp [erase, same, ih]

theorem erase_of_get?_eq_none (absent : t.get? k = none) : t.erase k = t := by
  induction t with
  | nil => rfl
  | cons first rest ih =>
      rw [get?] at absent
      split at absent
      · cases absent
      · rename_i different
        rw [erase, if_neg different, ih absent]

theorem put_of_get?_eq_none (absent : t.get? k = none) (v : ν) : t.put k v = t ++ [(k, v)] := by
  induction t with
  | nil => rfl
  | cons first rest ih =>
      rw [get?] at absent
      split at absent
      · cases absent
      · rename_i different
        rw [put, if_neg different, ih absent, List.cons_append]

/-- A write is not seen by those who look at other keys only. -/
theorem filter_put_of_not {p : κ → Bool} (unseen : p k = false) (v : ν) :
    (t.put k v).filter (fun entry => p entry.1) = t.filter fun entry => p entry.1 := by
  induction t with
  | nil => simp [put, unseen]
  | cons first rest ih =>
      by_cases same : first.1 = k
      · simp [put, same, unseen]
      · simp [put, same, List.filter_cons, ih]

theorem filter_erase_of_not {p : κ → Bool} (unseen : p k = false) :
    (t.erase k).filter (fun entry => p entry.1) = t.filter fun entry => p entry.1 := by
  rw [erase_eq_filter, List.filter_filter]
  refine List.filter_congr fun entry _ => ?_
  by_cases same : entry.1 = k
  · simp [same, unseen]
  · simp [same]

theorem get?_filter {p : κ → Bool} (seen : p k = true) :
    Table.get? (t.filter fun entry => p entry.1) k = t.get? k := by
  induction t with
  | nil => rfl
  | cons first rest ih =>
      by_cases same : first.1 = k
      · simp [get?, same, seen]
      · by_cases kept : p first.1 = true
        · simp [get?, same, kept, ih]
        · simp [get?, same, kept, ih]

theorem get?_eq_none_iff : t.get? k = none ↔ k ∉ t.map Prod.fst := by
  induction t with
  | nil => simp
  | cons first rest ih =>
      rw [get?, List.map_cons, List.mem_cons]
      split
      · rename_i same
        simp [same]
      · rename_i different
        rw [ih]
        simp [Ne.symm different]

/-! ## Distinct keys -/

def Distinct (t : Table κ ν) : Prop := (t.map Prod.fst).Nodup

instance : DecidablePred (Distinct : Table κ ν → Prop) :=
  fun t => inferInstanceAs (Decidable (t.map Prod.fst).Nodup)

omit [DecidableEq κ] in
theorem Distinct.tail (distinct : Distinct (entry :: t)) : t.Distinct :=
  (List.nodup_cons.mp distinct).2

theorem Distinct.put (distinct : t.Distinct) (absent : t.get? k = none) (v : ν) :
    (t.put k v).Distinct := by
  rw [put_of_get?_eq_none absent, Distinct, List.map_append]
  refine List.nodup_append.mpr ⟨distinct, List.pairwise_singleton _ k, ?_⟩
  rintro key member other new rfl
  rw [List.map_singleton, List.mem_singleton] at new
  subst new
  exact get?_eq_none_iff.mp absent member

omit [DecidableEq κ] in
theorem Distinct.perm {u : Table κ ν} (distinct : t.Distinct) (perm : t.Perm u) : u.Distinct :=
  (perm.map Prod.fst).nodup_iff.mp distinct

theorem Distinct.get?_eq_some_iff (distinct : t.Distinct) : t.get? k = some v ↔ (k, v) ∈ t := by
  refine ⟨mem_of_get?, ?_⟩
  induction t with
  | nil => simp
  | cons first rest ih =>
      intro member
      rw [get?]
      rcases List.mem_cons.mp member with rfl | member
      · simp
      · have absent : first.1 ≠ k := by
          rintro rfl
          exact (List.nodup_cons.mp distinct).1 (List.mem_map.mpr ⟨_, member, rfl⟩)
        rw [if_neg absent, ih distinct.tail member]

theorem Distinct.get?_perm {u : Table κ ν} (distinct : t.Distinct) (perm : t.Perm u) (k : κ) :
    u.get? k = t.get? k := by
  refine Option.ext fun v => ?_
  rw [distinct.get?_eq_some_iff, (distinct.perm perm).get?_eq_some_iff, perm.mem_iff]

/-! ## Gathered entries -/

theorem Distinct.ext {u : Table κ ν} (distinct : t.Distinct)
    (keys : t.map Prod.fst = u.map Prod.fst) (same : ∀ k, t.get? k = u.get? k) : t = u := by
  induction t generalizing u with
  | nil => exact (List.map_eq_nil_iff.mp keys.symm).symm
  | cons entry t ih =>
      obtain ⟨_, v⟩ := entry
      obtain ⟨⟨k, w⟩, u, rfl, rfl, others⟩ := List.map_eq_cons_iff.mp keys.symm
      have first : v = w := by simpa [Table.get?] using same k
      have absent : k ∉ t.map Prod.fst := (List.nodup_cons.mp distinct).1
      have rest : t = u := by
        refine ih distinct.tail others.symm fun j => ?_
        by_cases held : k = j
        · subst held
          rw [get?_eq_none_iff.mpr absent, get?_eq_none_iff.mpr (others ▸ absent)]
        · simpa [Table.get?, held] using same j
      rw [first, rest]

theorem keys_put (t : Table κ ν) (k : κ) (v : ν) :
    (t.put k v).map Prod.fst =
      if k ∈ t.map Prod.fst then t.map Prod.fst else t.map Prod.fst ++ [k] := by
  induction t with
  | nil => rfl
  | cons first rest ih =>
      by_cases same : first.1 = k
      · simp [put, same]
      · have different : k ≠ first.1 := Ne.symm same
        rw [put, if_neg same, List.map_cons, List.map_cons, ih]
        by_cases held : k ∈ rest.map Prod.fst
        · rw [if_pos held, if_pos (List.mem_cons_of_mem _ held)]
        · have absent : k ∉ first.1 :: rest.map Prod.fst := by
            rw [List.mem_cons]
            exact not_or.mpr ⟨different, held⟩
          rw [if_neg held, if_neg absent, List.cons_append]

theorem ofEntries_concat (entries : List (κ × ν)) (entry : κ × ν) :
    ofEntries (entries ++ [entry]) = (ofEntries entries).put entry.1 entry.2 := by
  simp [ofEntries]

/-- The keys stand in the order in which they come first. -/
theorem keys_ofEntries [BEq κ] [LawfulBEq κ] (entries : List (κ × ν)) :
    (ofEntries entries).map Prod.fst = (entries.map Prod.fst).eraseDups := by
  induction entries using List.reverseRecOn with
  | nil => rfl
  | append_singleton entries entry ih =>
      have alone : [entry.1].eraseDups = [entry.1] := by
        rw [List.eraseDups_cons]
        rfl
      rw [ofEntries_concat, keys_put, ih, List.map_append, List.eraseDups_append]
      by_cases held : entry.1 ∈ entries.map Prod.fst
      · rw [if_pos (List.mem_eraseDups.mpr held)]
        simp [held, List.removeAll]
      · rw [if_neg (mt List.mem_eraseDups.mp held)]
        simp [held, List.removeAll, alone]

theorem mem_of_mem_ofEntries {entries : List (κ × ν)} (kept : entry ∈ ofEntries entries) :
    entry ∈ entries := by
  induction entries using List.reverseRecOn with
  | nil => exact kept
  | append_singleton entries last ih =>
      rw [ofEntries_concat] at kept
      rcases mem_of_mem_put kept with rfl | kept
      · simp
      · exact List.mem_append_left _ (ih kept)

theorem distinct_ofEntries (entries : List (κ × ν)) : (ofEntries entries).Distinct := by
  induction entries using List.reverseRecOn with
  | nil => exact .nil
  | append_singleton entries entry ih =>
      rw [ofEntries_concat]
      cases held : (ofEntries entries).get? entry.1 with
      | none => exact ih.put held entry.2
      | some old =>
          have listed : entry.1 ∈ (ofEntries entries).map Prod.fst := by
            by_contra absent
            simp [get?_eq_none_iff.mpr absent] at held
          rwa [Distinct, keys_put, if_pos listed]

/-- Of the values that come under a key the last one is kept. -/
theorem get?_ofEntries (entries : List (κ × ν)) (k : κ) :
    (ofEntries entries).get? k =
      ((entries.filter fun entry => entry.1 = k).getLast?).map Prod.snd := by
  induction entries using List.reverseRecOn with
  | nil => rfl
  | append_singleton entries entry ih =>
      rw [ofEntries_concat, List.filter_append]
      by_cases same : entry.1 = k
      · simp [same]
      · rw [get?_put_of_ne _ _ same, ih]
        simp [same]

theorem get?_ofEntries_eq_none_iff {entries : List (κ × ν)} {k : κ} :
    (ofEntries entries).get? k = none ↔ ∀ entry ∈ entries, entry.1 ≠ k := by
  rw [get?_ofEntries, Option.map_eq_none_iff, List.getLast?_eq_none_iff, List.filter_eq_nil_iff]
  simp

theorem get?_ofEntries_middle {front back : List (κ × ν)} {k : κ} (v : ν)
    (last : ∀ entry ∈ back, entry.1 ≠ k) :
    (ofEntries (front ++ (k, v) :: back)).get? k = some v := by
  have behind : back.filter (fun entry => entry.1 = k) = [] := by
    rw [List.filter_eq_nil_iff]
    simpa using last
  rw [get?_ofEntries, List.filter_append, List.filter_cons_of_pos (by simp), behind]
  simp

/-- Tables that differ in the key of one entry only have the same keys only if it is the same. -/
theorem key_eq_of_ofEntries {front back : List (κ × ν)} {j k : κ} {v w : ν}
    (alone : (∀ entry ∈ front ++ back, entry.1 ≠ j) ∨ ∀ entry ∈ front ++ back, entry.1 ≠ k)
    (same : ∀ i, (ofEntries (front ++ (j, v) :: back)).get? i = none ↔
      (ofEntries (front ++ (k, w) :: back)).get? i = none) : j = k := by
  have lacks : ∀ i j v, (ofEntries (front ++ (j, v) :: back)).get? i = none ↔
      j ≠ i ∧ ∀ entry ∈ front ++ back, entry.1 ≠ i := by
    intro i j v
    rw [get?_ofEntries_eq_none_iff]
    simp only [List.perm_middle.mem_iff, List.forall_mem_cons]
  simp only [lacks] at same
  by_contra different
  -- the table in which the key that is alone was exchanged lacks it
  rcases alone with alone | alone
  · exact ((same j).mpr ⟨Ne.symm different, alone⟩).1 rfl
  · exact ((same k).mp ⟨different, alone⟩).1 rfl

theorem ofEntries_middle_of_later {front back : List (κ × ν)} {k : κ} (v w : ν)
    (later : ∃ entry ∈ back, entry.1 = k) :
    ofEntries (front ++ (k, v) :: back) = ofEntries (front ++ (k, w) :: back) := by
  refine (distinct_ofEntries _).ext ?_ fun j => ?_
  · simp [keys_ofEntries]
  · rw [get?_ofEntries, get?_ofEntries, List.filter_append, List.filter_append]
    by_cases same : k = j
    · subst same
      obtain ⟨entry, listed, key⟩ := later
      have behind : back.filter (fun entry => entry.1 = k) ≠ [] := by
        rw [Ne, List.filter_eq_nil_iff]
        exact fun absent => absent entry listed (by simpa using key)
      have last : ∀ v, ((front.filter fun entry => entry.1 = k) ++
          ((k, v) :: back).filter fun entry => entry.1 = k).getLast? =
            (back.filter fun entry => entry.1 = k).getLast? := by
        intro v
        rw [List.filter_cons_of_pos (by simp), List.append_cons,
          List.getLast?_append_of_ne_nil _ behind]
      rw [last, last]
    · rw [List.filter_cons_of_neg (by simpa using same),
        List.filter_cons_of_neg (by simpa using same)]

theorem ofEntries_of_distinct {entries : Table κ ν} (distinct : entries.Distinct) :
    ofEntries entries = entries := by
  induction entries using List.reverseRecOn with
  | nil => rfl
  | append_singleton entries entry ih =>
      rw [Distinct, List.map_append, List.nodup_append] at distinct
      have new : get? entries entry.1 = none := by
        rw [get?_eq_none_iff]
        exact fun old => distinct.2.2 _ old _ (List.mem_singleton_self _) rfl
      rw [ofEntries_concat, ih distinct.1, put_of_get?_eq_none new]

theorem length_ofEntries_eq_iff {entries : Table κ ν} :
    (ofEntries entries).length = entries.length ↔ entries.Distinct := by
  constructor
  · intro same
    have given : (ofEntries entries).map Prod.fst ⊆ entries.map Prod.fst := by
      intro k kept
      by_contra absent
      have lost : (ofEntries entries).get? k = none := get?_ofEntries_eq_none_iff.mpr
        fun entry listed key => absent (List.mem_map.mpr ⟨entry, listed, key⟩)
      exact get?_eq_none_iff.mp lost kept
    have perm := ((distinct_ofEntries entries).subperm given).perm_of_length_le
      (by simpa using Nat.le_of_eq same.symm)
    exact perm.nodup_iff.mp (distinct_ofEntries entries)
  · intro distinct
    rw [ofEntries_of_distinct distinct]

/-! ## Alike tables -/

/-- The tables have the same keys in the same order, and related values under them. -/
def Alike {μ : Type} (R : ν → μ → Prop) : Table κ ν → Table κ μ → Prop :=
  List.Forall₂ fun a b => a.1 = b.1 ∧ R a.2 b.2

namespace Alike

variable {μ : Type} {R : ν → μ → Prop} {u : Table κ μ} {w : μ}

theorem get? (alike : Alike R t u) (k : κ) : Option.Rel R (t.get? k) (u.get? k) := by
  induction alike with
  | nil => exact .none
  | @cons a b t u same _ ih =>
      rw [Table.get?, Table.get?, ← same.1]
      split
      · exact .some same.2
      · exact ih

omit [DecidableEq κ] in
theorem of_parts (keys : t.map Prod.fst = u.map Prod.fst)
    (values : List.Forall₂ R (t.map Prod.snd) (u.map Prod.snd)) : Alike R t u := by
  induction t generalizing u with
  | nil =>
      cases u with
      | nil => exact .nil
      | cons entry u => cases keys
  | cons entry t ih =>
      cases u with
      | nil => cases keys
      | cons other u =>
          obtain ⟨key, keys⟩ := List.cons_eq_cons.mp keys
          cases values with
          | cons value values => exact .cons ⟨key, value⟩ (ih keys values)

omit [DecidableEq κ] in
theorem keys (alike : Alike R t u) : t.map Prod.fst = u.map Prod.fst := by
  induction alike with
  | nil => rfl
  | cons same _ ih => rw [List.map_cons, List.map_cons, same.1, ih]

omit [DecidableEq κ] in
theorem values (alike : Alike R t u) :
    List.Forall₂ R (t.map Prod.snd) (u.map Prod.snd) := by
  induction alike with
  | nil => exact .nil
  | cons same _ ih => exact .cons same.2 ih

omit [DecidableEq κ] in
theorem exists_of_forall (each : ∀ entry ∈ t, ∃ w, R entry.2 w) : ∃ u : Table κ μ, Alike R t u := by
  induction t with
  | nil => exact ⟨[], .nil⟩
  | cons entry t ih =>
      obtain ⟨w, related⟩ := each entry List.mem_cons_self
      obtain ⟨u, more⟩ := ih fun other member => each other (List.mem_cons_of_mem _ member)
      exact ⟨(entry.1, w) :: u, .cons ⟨rfl, related⟩ more⟩

theorem put (alike : Alike R t u) (k : κ) (related : R v w) :
    Alike R (t.put k v) (u.put k w) := by
  induction alike with
  | nil => exact .cons ⟨rfl, related⟩ .nil
  | @cons a b t u same rest ih =>
      rw [Table.put, Table.put, ← same.1]
      split
      · exact .cons ⟨rfl, related⟩ rest
      · exact .cons ⟨rfl, same.2⟩ ih

theorem erase (alike : Alike R t u) (k : κ) : Alike R (t.erase k) (u.erase k) := by
  induction alike with
  | nil => exact .nil
  | @cons a b t u same _ ih =>
      rw [Table.erase, Table.erase, ← same.1]
      split
      · exact ih
      · exact .cons ⟨rfl, same.2⟩ ih

theorem ofEntries (alike : Alike R t u) : Alike R (ofEntries t) (ofEntries u) := by
  refine List.rel_foldl ?_ .nil alike
  rintro seen seen' sofar ⟨key, value⟩ ⟨_, other⟩ ⟨rfl, related⟩
  exact sofar.put key related

omit [DecidableEq κ] in
theorem filter (alike : Alike R t u) (p : κ → Bool) :
    Alike R (t.filter fun entry => p entry.1) (u.filter fun entry => p entry.1) :=
  List.rel_filter (fun a b same => by simp only [same.1]) alike

omit [DecidableEq κ] in
/-- Tables that are gathered from the same items, each with a value under its key or none. -/
theorem gathered {α : Type} {items : List α} {key : α → κ} {f : α → Option ν} {g : α → Option μ}
    (each : ∀ a ∈ items, Option.Rel R (f a) (g a)) :
    Alike R (items.filterMap fun a => (f a).map (key a, ·))
      (items.filterMap fun a => (g a).map (key a, ·)) := by
  induction items with
  | nil => exact .nil
  | cons a rest ih =>
      have behind := ih fun other member => each other (List.mem_cons_of_mem _ member)
      have here := each a List.mem_cons_self
      rw [List.filterMap_cons, List.filterMap_cons]
      generalize f a = held?, g a = other? at here ⊢
      cases here with
      | none => exact behind
      | some related => exact .cons ⟨rfl, related⟩ behind

end Alike

end CachePolicy.Table
