import CachePolicy.Pattern.Guard

/-!
# Matching that breaks off

A pattern breaks on a value with a fault when matching, which goes from left to right,
comes to the abstract pattern or to a field that the value refuses to give.  What
stands behind the first part that does not match is never looked at.
-/

namespace CachePolicy

/-- What is read of the value by name, an item of a mapping or else an attribute, is refused. -/
inductive Value.Refuses (v : Value) (name : String) (refusal : ReadFailure) : Prop
  | item (mapping : v.entries?.isSome) (refused : v.refused? (.item name) = some refusal)
  | attribute (noMapping : v.entries? = none)
      (refused : v.refused? (.attribute name) = some refusal)

theorem Value.attribute?_eq_error_iff {v : Value} {name : String} {fault : Fault} :
    v.attribute? name = .error fault ↔
      ∃ refusal, v.refused? (.attribute name) = some refusal ∧ fault = .readRefused refusal := by
  unfold attribute?
  cases v.refused? (.attribute name) with
  | some refusal => simp [eq_comm]
  | none => cases v.bare with
    | scalar s => cases s <;> simp
    | _ => simp

theorem Value.field?_eq_error_iff {v : Value} {name : String} {fault : Fault} :
    v.field? name = .error fault ↔
      ∃ refusal, v.Refuses name refusal ∧ fault = .readRefused refusal := by
  unfold field?
  cases mapping : v.entries? with
  | none =>
      rw [attribute?_eq_error_iff]
      refine exists_congr fun refusal => and_congr_left fun _ => ⟨.attribute mapping, ?_⟩
      rintro (⟨held, -⟩ | ⟨-, refused⟩)
      · simp [mapping] at held
      · exact refused
  | some entries =>
      have isMapping : v.entries?.isSome := by simp [mapping]
      cases refused : v.refused? (.item name) with
      | none =>
          refine iff_of_false nofun ?_
          rintro ⟨refusal, ⟨-, refused'⟩ | ⟨noMapping, -⟩, -⟩
          · cases refused.symm.trans refused'
          · cases mapping.symm.trans noMapping
      | some refusal =>
          rw [Except.error.injEq]
          constructor
          · rintro rfl
            exact ⟨refusal, .item isMapping refused, rfl⟩
          · rintro ⟨other, ⟨-, refused'⟩ | ⟨noMapping, -⟩, rfl⟩
            · cases refused.symm.trans refused'
              rfl
            · cases mapping.symm.trans noMapping

mutual

inductive Pattern.Breaks : Pattern → Value → Fault → Prop
  | abstract (v : Value) : Pattern.Breaks .abstract v .abstractPattern
  | shape {elements : List Pattern} {v : Value} {items : List Value} {fault : Fault}
      (tuple : v.tupleItems? = some items) (sameLength : items.length = elements.length)
      (breaks : ElementsBreak elements items fault) :
      Pattern.Breaks (.shape elements) v fault
  | record {cls : Class} {fields : List (String × Pattern)} {v : Value} {fault : Fault}
      (belongs : v.isA cls = true) (breaks : FieldsBreak fields v fault) :
      Pattern.Breaks (.record cls fields) v fault

inductive ElementsBreak : List Pattern → List Value → Fault → Prop
  | here {p : Pattern} {ps : List Pattern} {v : Value} {vs : List Value} {fault : Fault}
      (breaks : Pattern.Breaks p v fault) : ElementsBreak (p :: ps) (v :: vs) fault
  | later {p : Pattern} {ps : List Pattern} {v : Value} {vs : List Value} {fault : Fault}
      (matched : p.matches v = .ok true) (breaks : ElementsBreak ps vs fault) :
      ElementsBreak (p :: ps) (v :: vs) fault

inductive FieldsBreak : List (String × Pattern) → Value → Fault → Prop
  | refused {name : String} {p : Pattern} {rest : List (String × Pattern)} {v : Value}
      {refusal : ReadFailure} (refuses : v.Refuses name refusal) :
      FieldsBreak ((name, p) :: rest) v (.readRefused refusal)
  | here {name : String} {p : Pattern} {rest : List (String × Pattern)} {v field : Value}
      {fault : Fault} (found : v.field? name = .ok (some field))
      (breaks : Pattern.Breaks p field fault) : FieldsBreak ((name, p) :: rest) v fault
  | later {name : String} {p : Pattern} {rest : List (String × Pattern)} {v field : Value}
      {fault : Fault} (found : v.field? name = .ok (some field))
      (matched : p.matches field = .ok true) (breaks : FieldsBreak rest v fault) :
      FieldsBreak ((name, p) :: rest) v fault

end

theorem andThen_eq_true_iff {first : Except Fault Bool} {second : Unit → Except Fault Bool} :
    andThen first second = .ok true ↔ first = .ok true ∧ second () = .ok true := by
  cases first with
  | error fault => simp [andThen]
  | ok answer => cases answer <;> simp [andThen]

theorem andThen_eq_error_iff {first : Except Fault Bool} {second : Unit → Except Fault Bool}
    {fault : Fault} : andThen first second = .error fault ↔
      first = .error fault ∨ first = .ok true ∧ second () = .error fault := by
  cases first with
  | error other => simp [andThen]
  | ok answer => cases answer <;> simp [andThen]

mutual

theorem Pattern.matches_eq_error_iff (p : Pattern) (v : Value) (fault : Fault) :
    p.matches v = .error fault ↔ p.Breaks v fault := by
  cases p with
  | any =>
      simp only [Pattern.matches, reduceCtorEq, false_iff]
      exact nofun
  | exact expected =>
      simp only [Pattern.matches, reduceCtorEq, false_iff]
      exact nofun
  | abstract =>
      simp only [Pattern.matches, Except.error.injEq]
      exact ⟨fun same => same ▸ .abstract v, fun | .abstract _ => rfl⟩
  | shape elements =>
      rw [Pattern.matches]
      constructor
      · intro failed
        split at failed
        · rename_i items tuple
          split at failed
          · rename_i sameLength
            exact .shape tuple sameLength ((allMatch_eq_error_iff elements items fault).mp failed)
          · cases failed
        · cases failed
      · rintro (_ | ⟨tuple, sameLength, breaks⟩)
        simp only [tuple, sameLength, if_true]
        exact (allMatch_eq_error_iff elements _ fault).mpr breaks
  | record cls fields =>
      rw [Pattern.matches]
      constructor
      · intro failed
        split at failed
        · rename_i belongs
          exact .record belongs ((fieldsMatch_eq_error_iff fields v fault).mp failed)
        · cases failed
      · rintro (_ | _ | ⟨belongs, breaks⟩)
        simp only [belongs, if_true]
        exact (fieldsMatch_eq_error_iff fields v fault).mpr breaks

theorem allMatch_eq_error_iff (ps : List Pattern) (vs : List Value) (fault : Fault) :
    allMatch ps vs = .error fault ↔ ElementsBreak ps vs fault := by
  cases ps with
  | nil =>
      simp only [allMatch, reduceCtorEq, false_iff]
      exact nofun
  | cons p ps =>
      cases vs with
      | nil =>
          simp only [allMatch, reduceCtorEq, false_iff]
          exact nofun
      | cons v vs =>
          rw [allMatch, andThen_eq_error_iff, Pattern.matches_eq_error_iff p v fault,
            allMatch_eq_error_iff ps vs fault]
          constructor
          · rintro (breaks | ⟨matched, breaks⟩)
            · exact .here breaks
            · exact .later matched breaks
          · rintro (breaks | ⟨matched, breaks⟩)
            · exact .inl breaks
            · exact .inr ⟨matched, breaks⟩

theorem fieldsMatch_eq_error_iff (fields : List (String × Pattern)) (v : Value)
    (fault : Fault) : fieldsMatch fields v = .error fault ↔ FieldsBreak fields v fault := by
  cases fields with
  | nil =>
      simp only [fieldsMatch, reduceCtorEq, false_iff]
      exact nofun
  | cons entry rest =>
      obtain ⟨name, p⟩ := entry
      rw [fieldsMatch]
      cases read : v.field? name with
      | error other =>
          simp only [Except.error.injEq]
          obtain ⟨refusal, refuses, rfl⟩ := Value.field?_eq_error_iff.mp read
          constructor
          · rintro rfl
            exact .refused refuses
          · rintro (refuses | ⟨found, -⟩ | ⟨found, -⟩)
            · simpa [read] using Value.field?_eq_error_iff.mpr ⟨_, refuses, rfl⟩
            · simp [read] at found
            · simp [read] at found
      | ok held =>
          have given : ∀ refusal, ¬ v.Refuses name refusal := fun refusal refuses => by
            simp [Value.field?_eq_error_iff.mpr ⟨refusal, refuses, rfl⟩] at read
          cases held with
          | none =>
              simp only [reduceCtorEq, false_iff]
              rintro (refuses | ⟨found, -⟩ | ⟨found, -⟩)
              · exact given _ refuses
              · simp [read] at found
              · simp [read] at found
          | some field =>
              simp only [andThen_eq_error_iff, Pattern.matches_eq_error_iff p field fault,
                fieldsMatch_eq_error_iff rest v fault]
              constructor
              · rintro (breaks | ⟨matched, breaks⟩)
                · exact .here read breaks
                · exact .later read matched breaks
              · rintro (refuses | ⟨found, breaks⟩ | ⟨found, matched, breaks⟩)
                · exact absurd refuses (given _)
                · obtain rfl : field = _ := by simpa [read] using found
                  exact .inl breaks
                · obtain rfl : field = _ := by simpa [read] using found
                  exact .inr ⟨matched, breaks⟩

end

/-! ## Faults of matching -/

inductive MatchFault : Fault → Prop
  | abstractPattern : MatchFault .abstractPattern
  | readRefused (refusal : ReadFailure) : MatchFault (.readRefused refusal)

mutual

theorem Pattern.Breaks.matchFault {p : Pattern} {v : Value} {fault : Fault} :
    p.Breaks v fault → MatchFault fault
  | .abstract _ => .abstractPattern
  | .shape _ _ breaks => breaks.matchFault
  | .record _ breaks => breaks.matchFault

theorem ElementsBreak.matchFault {ps : List Pattern} {vs : List Value} {fault : Fault} :
    ElementsBreak ps vs fault → MatchFault fault
  | .here breaks => breaks.matchFault
  | .later _ breaks => breaks.matchFault

theorem FieldsBreak.matchFault {fields : List (String × Pattern)} {v : Value} {fault : Fault} :
    FieldsBreak fields v fault → MatchFault fault
  | .refused _ => .readRefused _
  | .here _ breaks => breaks.matchFault
  | .later _ _ breaks => breaks.matchFault

end

/-! ## Guards -/

/-- The alternatives in front do not hold of the value, and the next one breaks. -/
inductive AlternativesBreak : List Pattern → Value → Fault → Prop
  | here {p : Pattern} {rest : List Pattern} {v : Value} {fault : Fault}
      (breaks : p.Breaks v fault) : AlternativesBreak (p :: rest) v fault
  | later {p : Pattern} {rest : List Pattern} {v : Value} {fault : Fault}
      (passed : p.matches v = .ok false) (breaks : AlternativesBreak rest v fault) :
      AlternativesBreak (p :: rest) v fault

inductive Guard.Breaks : Guard → Value → Fault → Prop
  | oneOf {patterns : List Pattern} {v : Value} {fault : Fault}
      (breaks : AlternativesBreak patterns v fault) : Breaks (.oneOf patterns) v fault

theorem AlternativesBreak.matchFault {patterns : List Pattern} {v : Value} {fault : Fault}
    (broken : AlternativesBreak patterns v fault) : MatchFault fault := by
  induction broken with
  | here breaks => exact breaks.matchFault
  | later _ _ ih => exact ih

theorem Guard.Breaks.matchFault {g : Guard} {v : Value} {fault : Fault}
    (broken : g.Breaks v fault) : MatchFault fault := by
  cases broken with
  | oneOf breaks => exact breaks.matchFault

namespace Guard

theorem firstMatch?_eq_error_iff (patterns : List Pattern) (v : Value) (position : Nat)
    (fault : Fault) : firstMatch? v position patterns = .error fault ↔
      AlternativesBreak patterns v fault := by
  induction patterns generalizing position with
  | nil =>
      simp only [firstMatch?, reduceCtorEq, false_iff]
      exact nofun
  | cons p rest ih =>
      rw [firstMatch?]
      cases matched : p.matches v with
      | error other =>
          have breaks := (p.matches_eq_error_iff v other).mp matched
          simp only [Except.error.injEq]
          constructor
          · rintro rfl
            exact .here breaks
          · rintro (breaks | ⟨passed, -⟩)
            · simpa [matched] using (p.matches_eq_error_iff v fault).mpr breaks
            · simp [matched] at passed
      | ok holds =>
          have whole : ¬ p.Breaks v fault := by
            rw [← Pattern.matches_eq_error_iff, matched]
            simp
          cases holds with
          | true =>
              simp only [reduceCtorEq, false_iff]
              rintro (breaks | ⟨passed, -⟩)
              · exact whole breaks
              · simp [matched] at passed
          | false =>
              simp only [ih]
              constructor
              · exact .later matched
              · rintro (breaks | ⟨-, breaks⟩)
                · exact absurd breaks whole
                · exact breaks

theorem holds_eq_error_iff (g : Guard) (v : Value) (fault : Fault) :
    g.holds v = .error fault ↔ g.Breaks v fault := by
  have selects : g.holds v = .error fault ↔ g.select? v = .error fault := by
    unfold holds
    cases g.select? v <;> simp [bind, Except.bind, pure, Except.pure]
  rw [selects]
  cases g with
  | always =>
      simp only [select?, reduceCtorEq, false_iff]
      exact nofun
  | oneOf patterns =>
      rw [select?, firstMatch?_eq_error_iff]
      exact ⟨.oneOf, fun | .oneOf breaks => breaks⟩

end Guard

end CachePolicy
