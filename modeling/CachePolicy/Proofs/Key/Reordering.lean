import CachePolicy.Operation.Signature
import CachePolicy.Proofs.Datum.Written
import CachePolicy.Proofs.Results
import CachePolicy.Proofs.Table

/-!
# Keys and the order of members

Members of a map are printed in the order of their names, so two maps with the same
members have the same text.  The fragment of collected keywords therefore does not depend
on the order they were given in, and neither does a key that holds it.  Where a value
cannot be written it is up to the order which fault is met first.
-/

namespace CachePolicy

variable {α β κ ν μ : Type}

/-! ## Values under keys -/

namespace Table

def traverse (f : ν → Except Fault μ) (t : Table κ ν) : Except Fault (Table κ μ) :=
  t.mapM fun entry => do return (entry.1, ← f entry.2)

variable {f : ν → Except Fault μ} {t u : Table κ ν} {results : Table κ μ}

theorem traverse_keys (traversed : t.traverse f = .ok results) :
    results.map Prod.fst = t.map Prod.fst := by
  have each := mapM_eq_ok_iff.mp traversed
  clear traversed
  induction each with
  | nil => rfl
  | cons first _ ih =>
      obtain ⟨value, -, same⟩ := bind_eq_ok_iff.mp first
      cases same
      rw [List.map_cons, List.map_cons, ih]

theorem Distinct.traverse [DecidableEq κ] (distinct : t.Distinct)
    (traversed : t.traverse f = .ok results) : results.Distinct := by
  rwa [Distinct, traverse_keys traversed]

end Table

/-- What is made of the values under distinct keys concurs if it does not look at their order. -/
theorem Concur.traverse_bind [DecidableEq κ] {f : ν → Except Fault μ}
    {g : Table κ μ → Except Fault β} {t u : Table κ ν} (distinct : t.Distinct) (perm : t.Perm u)
    (made : ∀ {results others : Table κ μ}, results.Distinct → results.Perm others →
      Concur (g results) (g others)) :
    Concur (t.traverse f >>= g) (u.traverse f >>= g) := by
  -- the tables can change places, so one direction is enough
  have forth : ∀ {t u : Table κ ν}, t.Distinct → t.Perm u → ∀ b,
      t.traverse f >>= g = .ok b → u.traverse f >>= g = .ok b := by
    intro t u distinct perm b whole
    obtain ⟨results, traversed, first⟩ := bind_eq_ok_iff.mp whole
    obtain ⟨others, traversed', reordered⟩ := mapM_perm traversed perm
    have second := (made (distinct.traverse traversed) reordered b).mp first
    exact bind_eq_ok_iff.mpr ⟨others, traversed', second⟩
  exact fun b => ⟨forth distinct perm b, forth (distinct.perm perm) perm.symm b⟩

/-! ## Members of maps -/

namespace Datum

theorem print_map_concur {style : Style} (sorted : style.sorted = true)
    {members others : Table String Datum} (distinct : members.Distinct)
    (perm : members.Perm others) :
    Concur ((map members).print style) ((map others).print style) := by
  refine Concur.bind ?_ _
  rw [chars, chars, namedChars_eq_mapM, namedChars_eq_mapM]
  refine Concur.traverse_bind distinct perm ?_
  intro printed printed' distinct perm
  have same : printed.mergeSort nameLe = printed'.mergeSort nameLe := laid_of_perm distinct perm
  simp only [sorted, if_true, same]
  exact .refl _

end Datum

/-! ## Collected keywords -/

theorem normalEntries_keywordEntries (keywords : Table String Value) :
    normalEntries (Signature.keywordEntries keywords) = keywords.traverse Value.normal := by
  induction keywords with
  | nil => rfl
  | cons entry rest ih =>
      -- the fragment of a name is the name itself
      have first : normalEntries (Signature.keywordEntries (entry :: rest)) = (do
          return (entry.1, ← entry.2.normal) ::
            (← normalEntries (Signature.keywordEntries rest))) := rfl
      rw [first, ih, Table.traverse, Table.traverse, List.mapM_cons]
      simp

theorem fragment_keywordEntries_concur {keywords others : Table String Value}
    (distinct : keywords.Distinct) (perm : keywords.Perm others) :
    Concur (Value.dict false (Signature.keywordEntries keywords)).fragment
      (Value.dict false (Signature.keywordEntries others)).fragment := by
  have asBind : ∀ keywords : Table String Value,
      (Value.dict false (Signature.keywordEntries keywords)).fragment =
        keywords.traverse Value.normal >>= fun members =>
          (Datum.ofMembers members).print Datum.compact := by
    intro keywords
    rw [← normalEntries_keywordEntries, Value.fragment, Value.normal]
    cases normalEntries (Signature.keywordEntries keywords) <;> rfl
  rw [asBind, asBind]
  refine Concur.traverse_bind distinct perm fun distinct perm => ?_
  rw [Datum.ofMembers_of_distinct distinct, Datum.ofMembers_of_distinct (distinct.perm perm)]
  exact Datum.print_map_concur rfl distinct perm

/-! ## Keys -/

def Value.WrittenAlike (v w : Value) : Prop := Concur v.fragment w.fragment

theorem CompiledKey.render_concur (key : CompiledKey) {bindings others : Bindings}
    (alike : Table.Alike Value.WrittenAlike bindings others) :
    Concur (key.render bindings) (key.render others) := by
  refine (Concur.mapM ?_ key.segments).bind _
  intro segment
  cases segment with
  | literal text => exact .refl _
  | placeholder name =>
      have bound := alike.get? name
      simp only [segmentText]
      generalize bindings.get? name = held?, others.get? name = other? at bound ⊢
      cases bound with
      | none => exact .refl _
      | some written => exact written

end CachePolicy
