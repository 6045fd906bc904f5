import CachePolicy.Operation.Signature
import CachePolicy.Proofs.Table
import Mathlib.Data.List.Basic

/-!
# Calls and the values of parameters

What a call gives to every parameter, said without going through the parameters one
after the other: positional values are placed in the first parameters that take them,
keywords are looked up by name, and what is left over is collected or refused.  Filling
the parameters in their order comes to the same.
-/

namespace CachePolicy

/-! ## Signatures -/

/-- Which kinds may stand in front of which. -/
def ParameterKind.precedes : ParameterKind → ParameterKind → Bool
  | positionalOnly, _ => true
  | ordinary, other => other ≠ positionalOnly
  | variadic, other | keywordOnly, other => other = keywordOnly || other = keywords
  | keywords, _ => false

namespace Parameter

def takesPosition (p : Parameter) : Bool := p.kind = .positionalOnly || p.kind = .ordinary

def takesKeyword (p : Parameter) : Bool := p.kind = .ordinary || p.kind = .keywordOnly

end Parameter

namespace Signature

structure WellFormed (s : Signature) : Prop where
  distinct : (s.map Parameter.name).Nodup
  ordered : s.Pairwise fun p q => p.kind.precedes q.kind = true

/-! ## What a call gives to the parameters -/

def positionNames (s : Signature) : List String :=
  (s.filter Parameter.takesPosition).map Parameter.name

/-- The positional values, each under the name of the parameter that it is placed in. -/
def placed (s : Signature) (a : Arguments) : Table String Value :=
  s.positionNames.zip a.positional

def extraPositional (s : Signature) (a : Arguments) : List Value :=
  a.positional.drop s.positionNames.length

def extraKeywords (s : Signature) (a : Arguments) : Table String Value :=
  a.keywords.filter fun entry => !s.any fun p => p.takesKeyword && p.name = entry.1

def value? (s : Signature) (a : Arguments) (p : Parameter) : Option Value :=
  match p.kind with
  | .positionalOnly => ((s.placed a).get? p.name).or p.default?
  | .ordinary => ((s.placed a).get? p.name).or ((a.keywords.get? p.name).or p.default?)
  | .variadic => some (.tuple (s.extraPositional a))
  | .keywordOnly => (a.keywords.get? p.name).or p.default?
  | .keywords => some (.dict false (keywordEntries (s.extraKeywords a)))

def assigned (s : Signature) (a : Arguments) : Bindings :=
  s.filterMap fun p => (s.value? a p).map (p.name, ·)

structure Accepts (s : Signature) (a : Arguments) : Prop where
  filled : ∀ p ∈ s, (s.value? a p).isSome
  once : ∀ p ∈ s, p.kind = .ordinary →
    ¬ ((s.placed a).contains p.name ∧ a.keywords.contains p.name)
  positional : s.extraPositional a = [] ∨ ∃ p ∈ s, p.kind = .variadic
  keywords : s.extraKeywords a = [] ∨ ∃ p ∈ s, p.kind = .keywords

/-- A positional-only parameter is left to its default, and there is a keyword of its name. -/
def Hides (s : Signature) (a : Arguments) : Prop :=
  ∃ p ∈ s, p.kind = .positionalOnly ∧ (s.placed a).get? p.name = none ∧
    a.keywords.contains p.name

/-- What the values of a call are; with `strict` the call must not hide a parameter. -/
structure Fills (strict : Bool) (s : Signature) (a : Arguments) (bindings : Bindings) : Prop where
  accepts : s.Accepts a
  shown : strict = true → ¬ s.Hides a
  values : s.assigned a = bindings

variable {p : Parameter} {rest : Signature} {a after : Arguments} {strict : Bool}
  {bindings : Bindings} {value : Value}

namespace WellFormed

theorem tail (wellFormed : WellFormed (p :: rest)) : WellFormed rest where
  distinct := (List.nodup_cons.mp wellFormed.distinct).2
  ordered := (List.pairwise_cons.mp wellFormed.ordered).2

theorem precedes (wellFormed : WellFormed (p :: rest)) {q : Parameter} (member : q ∈ rest) :
    p.kind.precedes q.kind = true :=
  (List.pairwise_cons.mp wellFormed.ordered).1 q member

theorem name_ne (wellFormed : WellFormed (p :: rest)) {q : Parameter} (member : q ∈ rest) :
    p.name ≠ q.name := by
  intro same
  refine (List.nodup_cons.mp wellFormed.distinct).1 ?_
  rw [same]
  exact List.mem_map_of_mem member

/-- Behind a parameter that takes no position only keywords are taken. -/
theorem keywords_behind (wellFormed : WellFormed (p :: rest)) (unplaced : p.takesPosition = false)
    {q : Parameter} (member : q ∈ rest) : q.kind = .keywordOnly ∨ q.kind = .keywords := by
  have behind := wellFormed.precedes member
  unfold Parameter.takesPosition at unplaced
  revert behind unplaced
  cases p.kind <;> cases q.kind <;> decide

theorem positionNames_eq_nil (wellFormed : WellFormed (p :: rest))
    (unplaced : p.takesPosition = false) : positionNames rest = [] := by
  rw [positionNames, List.map_eq_nil_iff, List.filter_eq_nil_iff]
  intro q member
  rcases wellFormed.keywords_behind unplaced member with kind | kind <;>
    simp [Parameter.takesPosition, kind]

end WellFormed

/-! ## One parameter after the other -/

/-- Behind the first parameter the others see the same as before. -/
structure Resumes (p : Parameter) (rest : Signature) (a after : Arguments) : Prop where
  plain : p.kind ≠ .variadic ∧ p.kind ≠ .keywords
  samePlace : ∀ q ∈ rest, (placed (p :: rest) a).get? q.name = (placed rest after).get? q.name
  sameKeyword : ∀ q ∈ rest, a.keywords.get? q.name = after.keywords.get? q.name
  leftPositional : extraPositional (p :: rest) a = extraPositional rest after
  leftKeywords : extraKeywords (p :: rest) a = extraKeywords rest after

namespace Resumes

theorem value?_eq (resumes : Resumes p rest a after) {q : Parameter} (member : q ∈ rest) :
    value? (p :: rest) a q = value? rest after q := by
  simp only [value?, resumes.samePlace q member, resumes.sameKeyword q member,
    resumes.leftPositional, resumes.leftKeywords]

theorem twice_iff (resumes : Resumes p rest a after) {q : Parameter} (member : q ∈ rest) :
    ((placed (p :: rest) a).contains q.name ∧ a.keywords.contains q.name) ↔
      (placed rest after).contains q.name ∧ after.keywords.contains q.name := by
  simp only [Table.contains, resumes.samePlace q member, resumes.sameKeyword q member]

theorem hidden_iff (resumes : Resumes p rest a after) {q : Parameter} (member : q ∈ rest) :
    ((placed (p :: rest) a).get? q.name = none ∧ a.keywords.contains q.name) ↔
      (placed rest after).get? q.name = none ∧ after.keywords.contains q.name := by
  simp only [Table.contains, resumes.samePlace q member, resumes.sameKeyword q member]

theorem accepts_iff (resumes : Resumes p rest a after) :
    Accepts (p :: rest) a ↔
      ((value? (p :: rest) a p).isSome ∧ (p.kind = .ordinary →
        ¬ ((placed (p :: rest) a).contains p.name ∧ a.keywords.contains p.name))) ∧
      Accepts rest after := by
  have variadic : (∃ q ∈ p :: rest, q.kind = .variadic) ↔ ∃ q ∈ rest, q.kind = .variadic := by
    simp [resumes.plain.1]
  have keywords : (∃ q ∈ p :: rest, q.kind = .keywords) ↔ ∃ q ∈ rest, q.kind = .keywords := by
    simp [resumes.plain.2]
  constructor
  · intro accepts
    refine ⟨⟨accepts.filled p List.mem_cons_self, accepts.once p List.mem_cons_self⟩,
      ?_, ?_, ?_, ?_⟩
    · intro q member
      rw [← resumes.value?_eq member]
      exact accepts.filled q (List.mem_cons_of_mem _ member)
    · intro q member ordinary
      rw [← resumes.twice_iff member]
      exact accepts.once q (List.mem_cons_of_mem _ member) ordinary
    · rw [← resumes.leftPositional, ← variadic]
      exact accepts.positional
    · rw [← resumes.leftKeywords, ← keywords]
      exact accepts.keywords
  · rintro ⟨⟨valued, once⟩, accepts⟩
    refine ⟨?_, ?_, ?_, ?_⟩
    · intro q member
      rcases List.mem_cons.mp member with rfl | member
      · exact valued
      · rw [resumes.value?_eq member]
        exact accepts.filled q member
    · intro q member ordinary
      rcases List.mem_cons.mp member with rfl | member
      · exact once ordinary
      · rw [resumes.twice_iff member]
        exact accepts.once q member ordinary
    · rw [resumes.leftPositional, variadic]
      exact accepts.positional
    · rw [resumes.leftKeywords, keywords]
      exact accepts.keywords

theorem hides_iff (resumes : Resumes p rest a after) :
    Hides (p :: rest) a ↔
      (p.kind = .positionalOnly ∧ (placed (p :: rest) a).get? p.name = none ∧
        a.keywords.contains p.name) ∨ Hides rest after := by
  rw [Hides, List.exists_mem_cons_iff]
  refine or_congr_right (exists_congr fun q => and_congr_right fun member => ?_)
  rw [resumes.hidden_iff member]

theorem assigned_eq (resumes : Resumes p rest a after)
    (valued : value? (p :: rest) a p = some value) :
    assigned (p :: rest) a = (p.name, value) :: assigned rest after := by
  rw [assigned, List.filterMap_cons_some (by rw [valued]; rfl), assigned]
  refine congrArg _ (List.filterMap_congr fun q member => ?_)
  rw [resumes.value?_eq member]

/-- A parameter that has just one value, and is not hidden, leaves the others to be filled. -/
theorem fills_iff (resumes : Resumes p rest a after) :
    Fills strict (p :: rest) a bindings ↔
      (p.kind = .ordinary →
        ¬ ((placed (p :: rest) a).contains p.name ∧ a.keywords.contains p.name)) ∧
      (strict = true → ¬ (p.kind = .positionalOnly ∧ (placed (p :: rest) a).get? p.name = none ∧
        a.keywords.contains p.name)) ∧
      ∃ value, value? (p :: rest) a p = some value ∧
        ∃ others, Fills strict rest after others ∧ (p.name, value) :: others = bindings := by
  constructor
  · rintro ⟨accepts, shown, rfl⟩
    obtain ⟨⟨valued, once⟩, accepts⟩ := resumes.accepts_iff.mp accepts
    obtain ⟨value, valued⟩ := Option.isSome_iff_exists.mp valued
    refine ⟨once, fun strictly here => shown strictly (resumes.hides_iff.mpr (.inl here)),
      value, valued, _, ⟨accepts, ?_, rfl⟩, (resumes.assigned_eq valued).symm⟩
    exact fun strictly hides => shown strictly (resumes.hides_iff.mpr (.inr hides))
  · rintro ⟨once, shownHere, value, valued, _, ⟨accepts, shown, rfl⟩, rfl⟩
    refine ⟨resumes.accepts_iff.mpr ⟨⟨by simp [valued], once⟩, accepts⟩, ?_,
      resumes.assigned_eq valued⟩
    intro strictly hides
    rcases resumes.hides_iff.mp hides with here | hides
    · exact shownHere strictly here
    · exact shown strictly hides

end Resumes

/-! ## What each kind of parameter leaves to the others -/

theorem positionNames_cons_of_takes (takes : p.takesPosition = true) :
    positionNames (p :: rest) = p.name :: positionNames rest := by
  simp [positionNames, takes]

theorem positionNames_cons_of_not (unplaced : p.takesPosition = false) :
    positionNames (p :: rest) = positionNames rest := by
  simp [positionNames, unplaced]

theorem extraKeywords_cons_of_takes {items others : List Value} {keywords : Table String Value}
    (takes : p.takesKeyword = true) :
    extraKeywords (p :: rest) ⟨items, keywords⟩ =
      extraKeywords rest ⟨others, keywords.erase p.name⟩ := by
  simp only [extraKeywords, Table.erase_eq_filter, List.filter_filter, List.any_cons, takes]
  refine List.filter_congr fun entry _ => ?_
  by_cases same : p.name = entry.1
  · simp [same]
  · simp [same, Ne.symm same]

theorem extraKeywords_cons_of_not {items others : List Value} {keywords : Table String Value}
    (unnamed : p.takesKeyword = false) :
    extraKeywords (p :: rest) ⟨items, keywords⟩ = extraKeywords rest ⟨others, keywords⟩ := by
  simp [extraKeywords, unnamed]

/-- The first position is filled. -/
theorem resumes_placed {items : List Value} {keywords : Table String Value}
    (wellFormed : WellFormed (p :: rest)) (takes : p.takesPosition = true)
    (unnamed : p.takesKeyword = true → keywords.get? p.name = none) :
    Resumes p rest ⟨value :: items, keywords⟩ ⟨items, keywords⟩ where
  plain := by
    revert takes
    unfold Parameter.takesPosition
    cases p.kind <;> decide
  samePlace q member := by
    simp [placed, positionNames_cons_of_takes takes, Table.get?, wellFormed.name_ne member]
  sameKeyword q member := rfl
  leftPositional := by simp [extraPositional, positionNames_cons_of_takes takes]
  leftKeywords := by
    cases named : p.takesKeyword with
    | false => exact extraKeywords_cons_of_not named
    | true =>
        rw [extraKeywords_cons_of_takes named, Table.erase_of_get?_eq_none (unnamed named)]

/-- No positional values are left. -/
theorem resumes_unplaced {keywords : Table String Value} (only : p.kind = .positionalOnly) :
    Resumes p rest ⟨[], keywords⟩ ⟨[], keywords⟩ where
  plain := by simp [only]
  samePlace q member := by simp [placed]
  sameKeyword q member := rfl
  leftPositional := by simp [extraPositional]
  leftKeywords := extraKeywords_cons_of_not (by simp [Parameter.takesKeyword, only])

/-- A keyword is taken, or would be if it was there. -/
theorem resumes_named {keywords : Table String Value} (wellFormed : WellFormed (p :: rest))
    (takes : p.takesKeyword = true) :
    Resumes p rest ⟨[], keywords⟩ ⟨[], keywords.erase p.name⟩ where
  plain := by
    revert takes
    unfold Parameter.takesKeyword
    cases p.kind <;> decide
  samePlace q member := by simp [placed]
  sameKeyword q member := (Table.get?_erase_of_ne _ (wellFormed.name_ne member)).symm
  leftPositional := by simp [extraPositional]
  leftKeywords := extraKeywords_cons_of_takes takes

/-! ## The parameters that collect what is left -/

/-- Where no parameter takes a position, none has two values and none is hidden. -/
theorem fills_iff_of_unplaced {s : Signature} (unplaced : ∀ q ∈ s, q.takesPosition = false) :
    Fills strict s a bindings ↔
      (∀ q ∈ s, (s.value? a q).isSome) ∧
      (s.extraPositional a = [] ∨ ∃ q ∈ s, q.kind = .variadic) ∧
      (s.extraKeywords a = [] ∨ ∃ q ∈ s, q.kind = .keywords) ∧ s.assigned a = bindings := by
  have apart : ∀ q ∈ s, q.kind ≠ .ordinary ∧ q.kind ≠ .positionalOnly := by
    intro q member
    have position := unplaced q member
    unfold Parameter.takesPosition at position
    revert position
    cases q.kind <;> decide
  constructor
  · rintro ⟨⟨filled, -, positional, keywords⟩, -, values⟩
    exact ⟨filled, positional, keywords, values⟩
  · rintro ⟨filled, positional, keywords, values⟩
    have once : ∀ q ∈ s, q.kind = .ordinary →
        ¬ ((s.placed a).contains q.name ∧ a.keywords.contains q.name) :=
      fun q member ordinary => absurd ordinary (apart q member).1
    have shown : ¬ s.Hides a := fun ⟨q, member, only, _⟩ => (apart q member).2 only
    exact ⟨⟨filled, once, positional, keywords⟩, fun _ => shown, values⟩

theorem fills_nil_iff : Fills strict [] a bindings ↔ a = ⟨[], []⟩ ∧ bindings = [] := by
  obtain ⟨items, keywords⟩ := a
  rw [fills_iff_of_unplaced (List.forall_mem_nil _), eq_comm (b := bindings)]
  simp [extraPositional, positionNames, extraKeywords, assigned, and_assoc]

/-- Behind the parameter that collects positional values none is placed. -/
theorem fills_variadic_iff {items : List Value} {keywords : Table String Value}
    (wellFormed : WellFormed (p :: rest)) (collects : p.kind = .variadic) :
    Fills strict (p :: rest) ⟨items, keywords⟩ bindings ↔
      ∃ others, Fills strict rest ⟨[], keywords⟩ others ∧
        (p.name, .tuple items) :: others = bindings := by
  have unplaced : p.takesPosition = false := by simp [Parameter.takesPosition, collects]
  have unnamed : p.takesKeyword = false := by simp [Parameter.takesKeyword, collects]
  have behind := fun q member => wellFormed.keywords_behind unplaced (q := q) member
  have unplacedBehind : ∀ q ∈ rest, q.takesPosition = false := by
    intro q member
    rcases behind q member with kind | kind <;> simp [Parameter.takesPosition, kind]
  have leftKeywords : extraKeywords (p :: rest) ⟨items, keywords⟩ =
      extraKeywords rest ⟨[], keywords⟩ := extraKeywords_cons_of_not unnamed
  have here : value? (p :: rest) ⟨items, keywords⟩ p = some (.tuple items) := by
    simp [value?, collects, extraPositional, positionNames_cons_of_not unplaced,
      wellFormed.positionNames_eq_nil unplaced]
  have there : ∀ q ∈ rest, value? (p :: rest) ⟨items, keywords⟩ q =
      value? rest ⟨[], keywords⟩ q := by
    intro q member
    rcases behind q member with kind | kind <;> simp [value?, kind, leftKeywords]
  have filled : (∀ q ∈ p :: rest, (value? (p :: rest) ⟨items, keywords⟩ q).isSome) ↔
      ∀ q ∈ rest, (value? rest ⟨[], keywords⟩ q).isSome := by
    rw [List.forall_mem_cons, here]
    refine (and_iff_right rfl).trans (forall₂_congr fun q member => ?_)
    rw [there q member]
  have values : assigned (p :: rest) ⟨items, keywords⟩ =
      (p.name, .tuple items) :: assigned rest ⟨[], keywords⟩ := by
    rw [assigned, List.filterMap_cons_some (by rw [here]; rfl), assigned]
    exact congrArg _ (List.filterMap_congr fun q member => by rw [there q member])
  rw [fills_iff_of_unplaced (List.forall_mem_cons.mpr ⟨unplaced, unplacedBehind⟩), filled,
    leftKeywords, values]
  simp [fills_iff_of_unplaced unplacedBehind, collects, extraPositional, and_assoc]

/-- The parameter that collects keywords is the last one. -/
theorem fills_keywords_iff {items : List Value} {keywords : Table String Value}
    (wellFormed : WellFormed (p :: rest)) (collects : p.kind = .keywords) :
    Fills strict (p :: rest) ⟨items, keywords⟩ bindings ↔
      ∃ others, Fills strict rest ⟨items, []⟩ others ∧
        (p.name, .dict false (keywordEntries keywords)) :: others = bindings := by
  have unplaced : p.takesPosition = false := by simp [Parameter.takesPosition, collects]
  have unnamed : p.takesKeyword = false := by simp [Parameter.takesKeyword, collects]
  obtain rfl : rest = [] := by
    refine List.eq_nil_iff_forall_not_mem.mpr fun q member => ?_
    have behind := wellFormed.precedes member
    simp [collects, ParameterKind.precedes] at behind
  have leftPositional : extraPositional [p] ⟨items, keywords⟩ = items := by
    simp [extraPositional, positionNames, unplaced]
  have leftKeywords : extraKeywords [p] ⟨items, keywords⟩ = keywords := by
    simp [extraKeywords, unnamed]
  have here : value? [p] ⟨items, keywords⟩ p =
      some (.dict false (keywordEntries keywords)) := by
    simp [value?, collects, leftKeywords]
  have values : assigned [p] ⟨items, keywords⟩ =
      [(p.name, .dict false (keywordEntries keywords))] := by
    simp [assigned, here]
  rw [fills_iff_of_unplaced (by simp [unplaced]), leftPositional, leftKeywords, values]
  simp [fills_nil_iff, here, collects]

/-- A parameter without a position does not go past positional values. -/
theorem not_fills_keywordOnly {items : List Value} {keywords : Table String Value}
    (wellFormed : WellFormed (p :: rest)) (only : p.kind = .keywordOnly) :
    ¬ Fills strict (p :: rest) ⟨value :: items, keywords⟩ bindings := by
  have unplaced : p.takesPosition = false := by simp [Parameter.takesPosition, only]
  rintro ⟨accepts, -, -⟩
  rcases accepts.positional with none | ⟨q, member, collects⟩
  · simp [extraPositional, positionNames_cons_of_not unplaced,
      wellFormed.positionNames_eq_nil unplaced] at none
  · rcases List.mem_cons.mp member with rfl | member
    · simp [only] at collects
    · rcases wellFormed.keywords_behind unplaced member with kind | kind <;>
        simp [kind] at collects

theorem fill_eq_some_iff {s : Signature} (wellFormed : WellFormed s) (strict : Bool)
    (items : List Value) (keywords : Table String Value) (bindings : Bindings) :
    fill strict s items keywords = some bindings ↔ Fills strict s ⟨items, keywords⟩ bindings := by
  induction s generalizing items keywords bindings with
  | nil =>
      rw [fills_nil_iff]
      cases items <;> cases keywords <;> simp [fill, eq_comm]
  | cons p rest ih =>
      have ih := ih wellFormed.tail
      unfold fill
      cases kind : p.kind with
      | variadic =>
          simp only [Option.map_eq_some_iff, ih]
          exact (fills_variadic_iff wellFormed kind).symm
      | keywords =>
          simp only [Option.map_eq_some_iff, ih]
          exact (fills_keywords_iff wellFormed kind).symm
      | positionalOnly =>
          cases items with
          | nil =>
              rw [(resumes_unplaced kind).fills_iff]
              cases default : p.default? <;>
                simp [kind, value?, placed, default, ih, Option.map_eq_some_iff]
          | cons value items =>
              have takes : p.takesPosition = true := by simp [Parameter.takesPosition, kind]
              have unnamed : p.takesKeyword = false := by simp [Parameter.takesKeyword, kind]
              rw [(resumes_placed wellFormed takes (by simp [unnamed])).fills_iff]
              simp [kind, value?, placed, positionNames_cons_of_takes takes, Table.get?, ih,
                Option.map_eq_some_iff]
      | ordinary =>
          cases items with
          | nil =>
              have named : p.takesKeyword = true := by simp [Parameter.takesKeyword, kind]
              rw [(resumes_named wellFormed named).fills_iff]
              cases given : (keywords.get? p.name).or p.default? <;>
                simp [kind, value?, placed, given, ih, Table.contains, Option.map_eq_some_iff]
          | cons value items =>
              have takes : p.takesPosition = true := by simp [Parameter.takesPosition, kind]
              have held : (placed (p :: rest) ⟨value :: items, keywords⟩).get? p.name =
                  some value := by
                simp [placed, positionNames_cons_of_takes takes, Table.get?]
              cases named : keywords.get? p.name with
              | some other =>
                  have twice : ¬ Fills strict (p :: rest) ⟨value :: items, keywords⟩ bindings :=
                    fun fills => fills.accepts.once p List.mem_cons_self kind
                      (by simp [Table.contains, held, named])
                  simp [Table.contains, named, twice]
              | none =>
                  rw [(resumes_placed wellFormed takes fun _ => named).fills_iff]
                  simp [kind, value?, held, Table.contains, named, ih, Option.map_eq_some_iff]
      | keywordOnly =>
          cases items with
          | nil =>
              have named : p.takesKeyword = true := by simp [Parameter.takesKeyword, kind]
              rw [(resumes_named wellFormed named).fills_iff]
              cases given : (keywords.get? p.name).or p.default? <;>
                simp [kind, value?, given, ih, Option.map_eq_some_iff]
          | cons value items =>
              simp [not_fills_keywordOnly wellFormed kind]

end Signature

end CachePolicy
