import CachePolicy.Fault
import Mathlib.Data.List.Forall2
import Mathlib.Data.List.Permutation

/-!
# Results

A computation gives a result or fails.  Here is how these two go on through a sequence of
computations: with which faults it can fail, when it fails at all, and when two of them
give the same results.
-/

namespace CachePolicy

variable {α β : Type}

/-! ## Sequences -/

theorem bind_eq_ok_iff {x : Except Fault α} {f : α → Except Fault β} {b : β} :
    x >>= f = .ok b ↔ ∃ a, x = .ok a ∧ f a = .ok b := by
  cases x with
  | error fault => simp [bind, Except.bind]
  | ok a => simp [bind, Except.bind]

theorem map_eq_ok_iff {x : Except Fault α} {g : α → β} {b : β} :
    (do let a ← x; return g a) = .ok b ↔ ∃ a, x = .ok a ∧ g a = b := by
  simp only [bind_eq_ok_iff, pure, Except.pure, Except.ok.injEq]

theorem mapM_eq_ok_iff {f : α → Except Fault β} {items : List α} {results : List β} :
    items.mapM f = .ok results ↔ List.Forall₂ (fun a b => f a = .ok b) items results := by
  induction items generalizing results with
  | nil => simp [pure, Except.pure, eq_comm]
  | cons a rest ih =>
      simp only [List.mapM_cons, bind_eq_ok_iff, ih, List.forall₂_cons_left_iff, pure,
        Except.pure, Except.ok.injEq]
      constructor
      · rintro ⟨b, first, others, each, rfl⟩
        exact ⟨b, others, first, each, rfl⟩
      · rintro ⟨b, others, first, each, rfl⟩
        exact ⟨b, first, others, each, rfl⟩

theorem mapM_perm {f : α → Except Fault β} {items others : List α} {results : List β}
    (made : items.mapM f = .ok results) (perm : items.Perm others) :
    ∃ results', others.mapM f = .ok results' ∧ results.Perm results' := by
  obtain ⟨results', each, reordered⟩ :=
    List.perm_comp_forall₂ perm.symm (mapM_eq_ok_iff.mp made)
  exact ⟨results', mapM_eq_ok_iff.mpr each, reordered.symm⟩

theorem mapM_middle_eq_ok_iff {f : α → Except Fault β} {front back : List α} {a : α}
    {results : List β} :
    (front ++ a :: back).mapM f = .ok results ↔
      ∃ before b behind, front.mapM f = .ok before ∧ f a = .ok b ∧ back.mapM f = .ok behind ∧
        results = before ++ b :: behind := by
  rw [List.mapM_append]
  simp only [List.mapM_cons, bind_eq_ok_iff, pure, Except.pure, Except.ok.injEq]
  constructor
  · rintro ⟨before, first, _, ⟨b, here, behind, last, rfl⟩, rfl⟩
    exact ⟨before, b, behind, first, here, last, rfl⟩
  · rintro ⟨before, b, behind, first, here, last, rfl⟩
    exact ⟨before, first, _, ⟨b, here, behind, last, rfl⟩, rfl⟩

theorem mapM_exchanged {f : α → Except Fault β} {front back : List α} {a b : α}
    {results results' : List β} (left : (front ++ a :: back).mapM f = .ok results)
    (right : (front ++ b :: back).mapM f = .ok results') :
    ∃ before c d behind, front.mapM f = .ok before ∧ back.mapM f = .ok behind ∧ f a = .ok c ∧
      f b = .ok d ∧ results = before ++ c :: behind ∧ results' = before ++ d :: behind := by
  obtain ⟨before, c, behind, first, here, last, rfl⟩ := mapM_middle_eq_ok_iff.mp left
  obtain ⟨before', d, behind', first', here', last', rfl⟩ := mapM_middle_eq_ok_iff.mp right
  cases first.symm.trans first'
  cases last.symm.trans last'
  exact ⟨before, c, d, behind, first, last, here, here', rfl, rfl⟩

theorem forall₂_middle {R : α → β → Prop} {before behind : List α} {before' behind' : List β}
    {a : α} {b : β} (length : before.length = before'.length)
    (related : List.Forall₂ R (before ++ a :: behind) (before' ++ b :: behind')) : R a b := by
  have rest := List.forall₂_drop_append _ _ _ related
  rw [← length, List.drop_left] at rest
  exact (List.forall₂_cons.mp rest).1

theorem forall₂_comp {γ : Type} {R : α → β → Prop} {S : β → γ → Prop} {T : α → γ → Prop}
    {items : List α} {others : List β} {results : List γ} (first : List.Forall₂ R items others)
    (second : List.Forall₂ S others results)
    (each : ∀ a ∈ items, ∀ b c, R a b → S b c → T a c) : List.Forall₂ T items results := by
  induction first generalizing results with
  | nil =>
      cases second
      exact .nil
  | @cons a b rest others here _ ih =>
      cases second with
      | cons next behind =>
          exact .cons (each a List.mem_cons_self _ _ here next)
            (ih behind fun a member => each a (List.mem_cons_of_mem _ member))

theorem exists_forall₂ {R : α → β → Prop} {items : List α}
    (each : ∀ a ∈ items, ∃ b, R a b) : ∃ others, List.Forall₂ R items others := by
  induction items with
  | nil => exact ⟨[], .nil⟩
  | cons a rest ih =>
      obtain ⟨b, first⟩ := each a List.mem_cons_self
      obtain ⟨others, more⟩ := ih fun a member => each a (List.mem_cons_of_mem _ member)
      exact ⟨b :: others, .cons first more⟩

theorem map_eq_map_of_forall₂ {γ : Type} {R : α → β → Prop} {f : α → γ} {g : β → γ}
    {items : List α} {others : List β} (related : List.Forall₂ R items others)
    (each : ∀ a ∈ items, ∀ b, R a b → f a = g b) : items.map f = others.map g := by
  induction related with
  | nil => rfl
  | @cons a b rest others first _ ih =>
      rw [List.map_cons, List.map_cons, each a List.mem_cons_self b first,
        ih fun a member => each a (List.mem_cons_of_mem _ member)]

theorem exists_mem_iff_of_forall₂ {R : α → β → Prop} {P : α → Prop} {Q : β → Prop}
    {items : List α} {others : List β} (related : List.Forall₂ R items others)
    (each : ∀ a ∈ items, ∀ b, R a b → (P a ↔ Q b)) :
    (∃ a ∈ items, P a) ↔ ∃ b ∈ others, Q b := by
  induction related with
  | nil => simp
  | @cons a b rest others first _ ih =>
      rw [List.exists_mem_cons_iff, List.exists_mem_cons_iff, each a List.mem_cons_self b first,
        ih fun a member => each a (List.mem_cons_of_mem _ member)]

theorem exists_of_mem_left {R : α → β → Prop} {items : List α} {others : List β}
    (related : List.Forall₂ R items others) {a : α} (member : a ∈ items) :
    ∃ b ∈ others, R a b := by
  induction related with
  | nil => cases member
  | @cons c b rest others first _ ih =>
      rcases List.mem_cons.mp member with rfl | member
      · exact ⟨b, List.mem_cons_self, first⟩
      · obtain ⟨b, held, here⟩ := ih member
        exact ⟨b, List.mem_cons_of_mem _ held, here⟩

theorem exists_of_mem_right {R : α → β → Prop} {items : List α} {others : List β}
    (related : List.Forall₂ R items others) {b : β} (member : b ∈ others) :
    ∃ a ∈ items, R a b :=
  exists_of_mem_left related.flip member

theorem eq_map_of_mapM {f : α → Except Fault β} {g : α → β} {items : List α} {results : List β}
    (gathered : items.mapM f = .ok results)
    (each : ∀ a ∈ items, ∀ b, f a = .ok b → b = g a) : results = items.map g := by
  have same := map_eq_map_of_forall₂ (f := g) (g := id) (mapM_eq_ok_iff.mp gathered)
    fun a member b result => (each a member b result).symm
  rw [same, List.map_id]

/-! ## Faults that may occur -/

/-- A computation all of whose faults are allowed. -/
def FailsOnly (Allowed : Fault → Prop) (x : Except Fault α) : Prop :=
  ∀ fault, x = .error fault → Allowed fault

namespace FailsOnly

variable {Allowed : Fault → Prop}

theorem ok (a : α) : FailsOnly Allowed (.ok a) := nofun

theorem error {fault : Fault} (allowed : Allowed fault) :
    FailsOnly Allowed (.error fault : Except Fault α) := by
  rintro other ⟨⟩
  exact allowed

theorem imp {Allowed' : Fault → Prop} {x : Except Fault α} (fails : FailsOnly Allowed x)
    (weaker : ∀ fault, Allowed fault → Allowed' fault) : FailsOnly Allowed' x :=
  fun fault failed => weaker fault (fails fault failed)

/-- What follows a result only has to be allowed to fail when there is that result. -/
theorem bind {x : Except Fault α} {f : α → Except Fault β} (first : FailsOnly Allowed x)
    (rest : ∀ a, x = .ok a → FailsOnly Allowed (f a)) : FailsOnly Allowed (x >>= f) := by
  cases x with
  | error fault => exact error (first fault rfl)
  | ok a => exact rest a rfl

theorem mapM {f : α → Except Fault β} {items : List α}
    (each : ∀ a ∈ items, FailsOnly Allowed (f a)) : FailsOnly Allowed (items.mapM f) := by
  induction items with
  | nil => exact ok []
  | cons a rest ih =>
      rw [List.forall_mem_cons] at each
      rw [List.mapM_cons]
      exact each.1.bind fun b _ => (ih each.2).bind fun bs _ => ok (b :: bs)

end FailsOnly

/-! ## Failing -/

def Fails (x : Except Fault α) : Prop := ∃ fault, x = .error fault

namespace Fails

@[simp] theorem not_ok (a : α) : ¬ Fails (.ok a) := nofun

@[simp] theorem error (fault : Fault) : Fails (.error fault : Except Fault α) := ⟨fault, rfl⟩

theorem not_iff_ok {x : Except Fault α} : ¬ Fails x ↔ ∃ a, x = .ok a := by
  cases x with
  | error fault => simp
  | ok a => simp

theorem bind_iff {x : Except Fault α} {f : α → Except Fault β} :
    Fails (x >>= f) ↔ Fails x ∨ ∃ a, x = .ok a ∧ Fails (f a) := by
  cases x with
  | error fault => simp [bind, Except.bind]
  | ok a => simp [bind, Except.bind]

theorem bind_left {x : Except Fault α} (f : α → Except Fault β) (fails : Fails x) :
    Fails (x >>= f) :=
  bind_iff.mpr (.inl fails)

theorem bind_right {x : Except Fault α} {f : α → Except Fault β}
    (fails : ∀ a, x = .ok a → Fails (f a)) : Fails (x >>= f) := by
  cases x with
  | error fault => exact error fault
  | ok a => exact fails a rfl

/-- What is made of a result cannot fail any more. -/
theorem map_iff {x : Except Fault α} (g : α → β) :
    Fails (do let a ← x; return g a) ↔ Fails x := by
  cases x with
  | error fault => simp [bind, Except.bind]
  | ok a => simp [bind, Except.bind, pure, Except.pure]

/-- A list of results fails with its first one or with the others. -/
theorem cons_iff {x : Except Fault α} {xs : Except Fault (List β)} (g : α → β) :
    Fails (do return g (← x) :: (← xs)) ↔ Fails x ∨ Fails xs := by
  cases x with
  | error fault => simp [bind, Except.bind]
  | ok a =>
      cases xs with
      | error fault => simp [bind, Except.bind]
      | ok as => simp [bind, Except.bind, pure, Except.pure]

theorem mapM_iff {f : α → Except Fault β} (items : List α) :
    Fails (items.mapM f) ↔ ∃ a ∈ items, Fails (f a) := by
  induction items with
  | nil => simp [pure, Except.pure]
  | cons a rest ih =>
      rw [List.mapM_cons]
      exact (cons_iff id).trans (by simp [ih])

end Fails

/-! ## The same results -/

/-- Both give the same results; where one fails the other fails too, perhaps with another
fault. -/
def Concur (x y : Except Fault α) : Prop := ∀ a, x = .ok a ↔ y = .ok a

namespace Concur

variable {x y z : Except Fault α}

theorem refl (x : Except Fault α) : Concur x x := fun _ => Iff.rfl

theorem trans (first : Concur x y) (second : Concur y z) : Concur x z :=
  fun a => (first a).trans (second a)

theorem bind (concur : Concur x y) (f : α → Except Fault β) : Concur (x >>= f) (y >>= f) := by
  intro b
  rw [bind_eq_ok_iff, bind_eq_ok_iff]
  exact exists_congr fun a => and_congr_left fun _ => concur a

theorem mapM {f g : α → Except Fault β} (each : ∀ a, Concur (f a) (g a)) (items : List α) :
    Concur (items.mapM f) (items.mapM g) := by
  intro results
  have same : (fun a b => f a = .ok b) = fun a b => g a = .ok b := by
    funext a b
    exact propext (each a b)
  rw [mapM_eq_ok_iff, mapM_eq_ok_iff, same]

end Concur

/-! ## Related results -/

/-- Both give related results, or both fail, perhaps with different faults. -/
inductive Paired (R : α → β → Prop) : Except Fault α → Except Fault β → Prop
  | ok {a : α} {b : β} (related : R a b) : Paired R (.ok a) (.ok b)
  | error (fault fault' : Fault) : Paired R (.error fault) (.error fault')

namespace Paired

variable {γ δ : Type} {R : α → β → Prop} {S : γ → δ → Prop} {x : Except Fault α}
  {y : Except Fault β}

theorem bind {f : α → Except Fault γ} {g : β → Except Fault δ} (first : Paired R x y)
    (rest : ∀ a b, R a b → Paired S (f a) (g b)) : Paired S (x >>= f) (y >>= g) := by
  cases first with
  | ok related => exact rest _ _ related
  | error fault fault' => exact .error fault fault'

theorem map {f : α → γ} {g : β → δ} (first : Paired R x y) (rest : ∀ a b, R a b → S (f a) (g b)) :
    Paired S (do return f (← x)) (do return g (← y)) :=
  first.bind fun a b related => .ok (rest a b related)

theorem and_left {P : α → Prop} (paired : Paired R x y) (made : ∀ a, x = .ok a → P a) :
    Paired (fun a b => P a ∧ R a b) x y := by
  cases paired with
  | ok related => exact .ok ⟨made _ rfl, related⟩
  | error fault fault' => exact .error fault fault'

theorem refl {R : α → α → Prop} (each : ∀ a, R a a) (x : Except Fault α) : Paired R x x := by
  cases x with
  | ok a => exact .ok (each a)
  | error fault => exact .error fault fault

theorem mapM {f : α → Except Fault γ} {g : β → Except Fault δ} {items : List α} {others : List β}
    (each : List.Forall₂ (fun a b => Paired S (f a) (g b)) items others) :
    Paired (List.Forall₂ S) (items.mapM f) (others.mapM g) := by
  induction each with
  | nil => exact .ok .nil
  | cons first _ ih =>
      rw [List.mapM_cons, List.mapM_cons]
      exact first.bind fun c d related => ih.map fun cs ds more => .cons related more

/-- Related results stay related under a condition that is the same for both. -/
theorem given {P : Prop} {x' : Except Fault α} {y' : Except Fault β} (paired : Paired R x y)
    (left : ∀ a, x' = .ok a ↔ P ∧ x = .ok a) (right : ∀ b, y' = .ok b ↔ P ∧ y = .ok b) :
    Paired R x' y' := by
  cases x' with
  | ok a =>
      obtain ⟨holds, rfl⟩ := (left a).mp rfl
      cases paired with
      | ok related =>
          rw [(right _).mpr ⟨holds, rfl⟩]
          exact .ok related
  | error fault =>
      cases y' with
      | error fault' => exact .error fault fault'
      | ok b =>
          obtain ⟨holds, rfl⟩ := (right b).mp rfl
          cases paired with
          | ok related => cases (left _).mpr ⟨holds, rfl⟩

/-- Related results are of use for nothing but what they give alike. -/
theorem concur_bind {f : α → Except Fault γ} {g : β → Except Fault γ} (first : Paired R x y)
    (rest : ∀ a b, R a b → Concur (f a) (g b)) : Concur (x >>= f) (y >>= g) := by
  cases first with
  | ok related => exact rest _ _ related
  | error fault fault' => exact fun c => ⟨nofun, nofun⟩

end Paired

theorem paired_eq_iff {x y : Except Fault α} : Paired Eq x y ↔ Concur x y := by
  constructor
  · rintro (rfl | _)
    · exact .refl _
    · exact fun a => ⟨nofun, nofun⟩
  · intro concur
    cases x with
    | ok a => rw [(concur a).mp rfl]; exact .ok rfl
    | error fault =>
        cases y with
        | ok a => cases (concur a).mpr rfl
        | error fault' => exact .error fault fault'

theorem paired_mapM_of_perm {f : α → Except Fault β} {items others : List α}
    (perm : items.Perm others) : Paired List.Perm (items.mapM f) (others.mapM f) := by
  cases left : items.mapM f with
  | ok results =>
      obtain ⟨results', right, reordered⟩ := mapM_perm left perm
      rw [right]
      exact .ok reordered
  | error fault =>
      cases right : others.mapM f with
      | ok results' =>
          obtain ⟨results, made, -⟩ := mapM_perm right perm.symm
          cases left.symm.trans made
      | error fault' => exact .error fault fault'

/-- Both give related results, or both fail with the same fault. -/
inductive Matched (R : α → β → Prop) : Except Fault α → Except Fault β → Prop
  | ok {a : α} {b : β} (related : R a b) : Matched R (.ok a) (.ok b)
  | error (fault : Fault) : Matched R (.error fault) (.error fault)

namespace Matched

variable {γ δ : Type} {R : α → β → Prop} {S : γ → δ → Prop} {x : Except Fault α}
  {y : Except Fault β}

theorem bind {f : α → Except Fault γ} {g : β → Except Fault δ} (first : Matched R x y)
    (rest : ∀ a b, R a b → Matched S (f a) (g b)) : Matched S (x >>= f) (y >>= g) := by
  cases first with
  | ok related => exact rest _ _ related
  | error fault => exact .error fault

theorem map {f : α → γ} {g : β → δ} (first : Matched R x y)
    (rest : ∀ a b, R a b → S (f a) (g b)) : Matched S (do return f (← x)) (do return g (← y)) :=
  first.bind fun a b related => .ok (rest a b related)

theorem after (check : Except Fault γ) (rest : Matched R x y) :
    Matched R (check >>= fun _ => x) (check >>= fun _ => y) := by
  cases check with
  | ok c => exact rest
  | error fault => exact .error fault

/-- A list of results goes on with what is made of its first one. -/
theorem cons {f : α → γ} {g : β → δ} {xs : Except Fault (List γ)} {ys : Except Fault (List δ)}
    (first : Matched R x y) (rest : Matched (List.Forall₂ S) xs ys)
    (each : ∀ a b, R a b → S (f a) (g b)) :
    Matched (List.Forall₂ S) (do return f (← x) :: (← xs)) (do return g (← y) :: (← ys)) :=
  first.bind fun a b related => rest.map fun _ _ more => .cons (each a b related) more

theorem mapM {f : α → Except Fault γ} {g : β → Except Fault δ} {items : List α} {others : List β}
    (each : List.Forall₂ (fun a b => Matched S (f a) (g b)) items others) :
    Matched (List.Forall₂ S) (items.mapM f) (others.mapM g) := by
  induction each with
  | nil => exact .ok .nil
  | cons first _ ih =>
      rw [List.mapM_cons, List.mapM_cons]
      exact first.cons ih fun c d related => related

theorem and_left {P : α → Prop} (matched : Matched R x y) (made : ∀ a, x = .ok a → P a) :
    Matched (fun a b => P a ∧ R a b) x y := by
  cases matched with
  | ok related => exact .ok ⟨made _ rfl, related⟩
  | error fault => exact .error fault

theorem eq_of_ok {a : α} (matched : Matched R x y) (given : x = .ok a) :
    ∃ b, y = .ok b ∧ R a b := by
  cases matched with
  | ok related =>
      cases given
      exact ⟨_, rfl, related⟩
  | error fault => cases given

end Matched

end CachePolicy
