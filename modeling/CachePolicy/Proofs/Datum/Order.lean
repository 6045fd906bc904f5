import CachePolicy.Datum.Printer
import CachePolicy.Proofs.Table
import Mathlib.Data.Char
import Mathlib.Data.List.Nodup

/-!
# Parts in the order they are printed in

Texts are in one order, so there is one way to sort the members of a map by their names.
Lists of related items stay related when both are sorted by texts that related items
share.
-/

namespace CachePolicy

namespace Datum

/-! ## The order of texts -/

theorem charsLe_cons_iff {c d : Char} {cs ds : List Char} :
    charsLe (c :: cs) (d :: ds) = true ↔ c < d ∨ c = d ∧ charsLe cs ds = true := by
  simp [charsLe]

theorem charsLe_trans {cs ds es : List Char} (first : charsLe cs ds = true)
    (second : charsLe ds es = true) : charsLe cs es = true := by
  induction cs generalizing ds es with
  | nil => rfl
  | cons c cs ih =>
      match ds, es with
      | [], _ => cases first
      | _ :: _, [] => cases second
      | d :: ds, e :: es =>
          rw [charsLe_cons_iff] at first second ⊢
          rcases first with less | ⟨rfl, first⟩
          · rcases second with less' | ⟨rfl, -⟩
            · exact .inl (Char.lt_trans less less')
            · exact .inl less
          · exact second.imp_right fun ⟨same, second⟩ => ⟨same, ih first second⟩

theorem charsLe_total (cs ds : List Char) : charsLe cs ds = true ∨ charsLe ds cs = true := by
  induction cs generalizing ds with
  | nil => exact .inl rfl
  | cons c cs ih =>
      match ds with
      | [] => exact .inr rfl
      | d :: ds =>
          rw [charsLe_cons_iff, charsLe_cons_iff]
          rcases lt_trichotomy c d with less | same | greater
          · exact .inl (.inl less)
          · exact (ih ds).imp (fun le => .inr ⟨same, le⟩) fun le => .inr ⟨same.symm, le⟩
          · exact .inr (.inl greater)

theorem charsLe_antisymm {cs ds : List Char} (le : charsLe cs ds = true)
    (ge : charsLe ds cs = true) : cs = ds := by
  induction cs generalizing ds with
  | nil =>
      match ds with
      | [] => rfl
      | _ :: _ => cases ge
  | cons c cs ih =>
      match ds with
      | [] => cases le
      | d :: ds =>
          rw [charsLe_cons_iff] at le ge
          rcases le with less | ⟨rfl, le⟩
          · rcases ge with less' | ⟨rfl, -⟩
            · exact absurd less' (Char.lt_asymm less)
            · exact absurd less (Char.lt_irrefl _)
          · rcases ge with less | ⟨-, ge⟩
            · exact absurd less (Char.lt_irrefl _)
            · rw [ih le ge]

/-! ## Sorting -/

theorem forall₂_mergeSort {α β : Type} {R : α → β → Prop} {items : List α} {others : List β}
    {f : α → List Char} {g : β → List Char} (related : List.Forall₂ R items others)
    (shared : ∀ a b, R a b → f a = g b) :
    List.Forall₂ R (items.mergeSort fun a b => charsLe (f a) (f b))
      (others.mergeSort fun a b => charsLe (g a) (g b)) := by
  -- both are what is made of one list of pairs
  obtain ⟨pairs, rfl, rfl, each⟩ : ∃ pairs : List (α × β), pairs.map Prod.fst = items ∧
      pairs.map Prod.snd = others ∧ ∀ pair ∈ pairs, R pair.1 pair.2 := by
    refine ⟨items.zip others, ?_, ?_, ?_⟩
    · exact List.map_fst_zip (Nat.le_of_eq related.length_eq)
    · exact List.map_snd_zip (Nat.le_of_eq related.length_eq.symm)
    · exact fun pair member => List.forall₂_zip related member
  rw [← List.map_mergeSort (r := fun a b : α × β => charsLe (f a.1) (f b.1)),
    ← List.map_mergeSort (r := fun a b : α × β => charsLe (f a.1) (f b.1))]
  · rw [List.forall₂_map_left_iff, List.forall₂_map_right_iff, List.forall₂_same]
    exact fun pair member => each pair (List.mem_mergeSort.mp member)
  · intro a first b second
    rw [shared _ _ (each a first), shared _ _ (each b second)]
  · exact fun _ _ _ _ => rfl

theorem pairwise_mergeSort_charsLe {α : Type} (f : α → List Char) (items : List α) :
    (items.mergeSort fun a b => charsLe (f a) (f b)).Pairwise
      fun a b => charsLe (f a) (f b) = true :=
  @List.pairwise_mergeSort α (fun a b => charsLe (f a) (f b)) (fun _ _ _ => charsLe_trans)
    (fun _ _ => (Bool.or_eq_true _ _).mpr (charsLe_total _ _)) items

theorem map_mergeSort_of_perm {α : Type} {items others : List α} (f : α → List Char)
    (perm : items.Perm others) :
    (items.mergeSort fun a b => charsLe (f a) (f b)).map f =
      (others.mergeSort fun a b => charsLe (f a) (f b)).map f := by
  refine List.Perm.eq_of_pairwise (fun _ _ _ _ => charsLe_antisymm)
    (List.pairwise_map.mpr (pairwise_mergeSort_charsLe f items))
    (List.pairwise_map.mpr (pairwise_mergeSort_charsLe f others)) (List.Perm.map f ?_)
  exact (List.mergeSort_perm _ _).trans (perm.trans (List.mergeSort_perm _ _).symm)

/-- Members in the order in which they are printed. -/
def laid {α : Type} (sorted : Bool) (members : List (String × α)) : List (String × α) :=
  if sorted then members.mergeSort fun a b => charsLe a.1.toList b.1.toList else members

theorem laid_perm {α : Type} (sorted : Bool) (members : List (String × α)) :
    (laid sorted members).Perm members := by
  unfold laid
  split
  · exact List.mergeSort_perm _ _
  · exact .refl _

theorem laid_map {α β : Type} (sorted : Bool) (f : α → β) (members : List (String × α)) :
    laid sorted (members.map fun member => (member.1, f member.2)) =
      (laid sorted members).map fun member => (member.1, f member.2) := by
  unfold laid
  split
  · exact (List.map_mergeSort (f := fun member : String × α => (member.1, f member.2))
      fun _ _ _ _ => rfl).symm
  · rfl

/-- Where no name comes twice there is one way to sort by names. -/
theorem laid_of_perm {α : Type} {members others : Table String α} (distinct : members.Distinct)
    (perm : members.Perm others) : laid true members = laid true others := by
  have unique : ∀ a b, a ∈ laid true members → b ∈ laid true others →
      charsLe a.1.toList b.1.toList = true → charsLe b.1.toList a.1.toList = true → a = b := by
    intro a b first second le ge
    have same : a.1 = b.1 := String.toList_injective (charsLe_antisymm le ge)
    rw [(laid_perm _ _).mem_iff] at first second
    exact List.inj_on_of_nodup_map distinct first (perm.mem_iff.mpr second) same
  refine List.Perm.eq_of_pairwise unique (pairwise_mergeSort_charsLe _ members)
    (pairwise_mergeSort_charsLe _ others) ?_
  exact (laid_perm true _).trans (perm.trans (laid_perm true _).symm)

theorem alike_laid {ν μ : Type} {R : ν → μ → Prop} {members : Table String ν}
    {others : Table String μ} (sorted : Bool) (alike : Table.Alike R members others) :
    Table.Alike R (laid sorted members) (laid sorted others) := by
  cases sorted with
  | false => exact alike
  | true => exact forall₂_mergeSort alike fun a b same => congrArg String.toList same.1

end Datum

end CachePolicy
