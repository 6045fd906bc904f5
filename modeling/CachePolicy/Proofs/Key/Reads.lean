import CachePolicy.Key.Fragment
import CachePolicy.Proofs.Results

/-!
# Reads for a plain form

The attributes that are read of a value itself on the way to its plain form.  A value that
refuses reads has the plain form of the value in it unless one of these is refused.  The
plain forms of the parts follow one another in their sequence.
-/

namespace CachePolicy

/-! ## Refused reads -/

namespace Refusals

variable {refusals others : Refusals} {access : Access} {fault : Fault} {β : Type}

theorem allow_eq_error_iff :
    refusals.allow access = .error fault ↔ refusals.fault? access = some fault := by
  cases refused : refusals.fault? access <;> simp [allow, refused]

theorem allow_bind_eq_ok_iff {f : Unit → Except Fault β} {b : β} :
    refusals.allow access >>= f = .ok b ↔ refusals.fault? access = none ∧ f () = .ok b := by
  cases refused : refusals.fault? access with
  | none => simp [allow, refused, bind, Except.bind]
  | some fault => simp [allow, refused, bind, Except.bind]

theorem allow_map_eq_ok_iff {g : Unit → β} {b : β} :
    g <$> refusals.allow access = .ok b ↔ refusals.fault? access = none ∧ g () = b := by
  cases refused : refusals.fault? access with
  | none => simp [allow, refused, Functor.map, Except.map]
  | some fault => simp [allow, refused, Functor.map, Except.map]

@[simp] theorem fault?_nil (access : Access) : fault? [] access = none := rfl

@[simp] theorem allow_nil_bind (f : Unit → Except Fault β) : allow [] access >>= f = f () := rfl

theorem fault?_append_eq_none_iff :
    fault? (refusals ++ others) access = none ↔
      refusals.fault? access = none ∧ others.fault? access = none := by
  induction refusals with
  | nil => simp
  | cons refusal rest ih =>
      by_cases same : refusal.1 = access
      · simp [fault?, Table.get?, same]
      · simpa [fault?, Table.get?, same] using ih

theorem forM_allow_eq_ok_iff {names : List String} {u : Unit} :
    (names.forM fun name => refusals.allow (.attribute name)) = .ok u ↔
      ∀ name ∈ names, refusals.fault? (.attribute name) = none := by
  induction names with
  | nil => simp [pure, Except.pure]
  | cons name rest ih => rw [List.forM, allow_bind_eq_ok_iff, List.forall_mem_cons, ih]

theorem forM_allow_eq_error {names : List String}
    (failed : (names.forM fun name => refusals.allow (.attribute name)) = .error fault) :
    ∃ name ∈ names, refusals.fault? (.attribute name) = some fault := by
  induction names with
  | nil => cases failed
  | cons name rest ih =>
      rw [List.forM] at failed
      cases read : refusals.allow (.attribute name) with
      | error other =>
          rw [read] at failed
          cases failed
          exact ⟨name, List.mem_cons_self, allow_eq_error_iff.mp read⟩
      | ok u =>
          rw [read] at failed
          obtain ⟨other, member, refused⟩ := ih failed
          exact ⟨other, List.mem_cons_of_mem _ member, refused⟩

end Refusals

/-! ## Parts in their sequence -/

theorem normalItems_eq_mapM (items : List Value) :
    normalItems items = items.mapM fun v => v.normal := by
  induction items with
  | nil => rfl
  | cons v rest ih => rw [normalItems, List.mapM_cons, ih]

theorem normalEntries_eq_mapM (entries : List (Value × Value)) :
    normalEntries entries =
      entries.mapM fun entry => do return (← entry.1.fragment, ← entry.2.normal) := by
  induction entries with
  | nil => rfl
  | cons entry rest ih =>
      rw [normalEntries, List.mapM_cons, ih]
      simp [Value.fragment]

theorem normalFields_eq_mapM (fields : List (String × Value)) :
    normalFields fields = fields.mapM fun field => do return (field.1, ← field.2.normal) := by
  induction fields with
  | nil => rfl
  | cons field rest ih =>
      rw [normalFields, Refusals.allow_nil_bind, List.mapM_cons, ih]
      simp

theorem normalPatterns_eq_mapM (ps : List Pattern) :
    normalPatterns ps = ps.mapM Pattern.normal := by
  induction ps with
  | nil => rfl
  | cons p rest ih => rw [normalPatterns, List.mapM_cons, ih]

theorem normalMatchers_eq_mapM (fields : List (String × Pattern)) :
    normalMatchers fields =
      fields.mapM fun field => do return .list [.text field.1, ← field.2.normal] := by
  induction fields with
  | nil => rfl
  | cons field rest ih =>
      rw [normalMatchers, List.mapM_cons, ih]
      simp

/-! ## Values that refuse reads -/

/-- The attributes that are read of a value itself for its plain form. -/
def Value.reads : Value → Bool → List String
  | .scalar s, _ => s.reader?.toList
  | .list _, _ | .tuple _, _ | .set _ _, _ | .named _ _, _ => [dumpName]
  | .object _ _ _ _ _, _ | .known _ _, _ => [dumpName]
  | .dict _ _, _ => [dumpName, "items"]
  | .member mixin _ _ _, outer => if mixin.normal? outer = none then ["value"] else []
  | .data _ fields missing, _ => fields.map Prod.fst ++ missing
  | .lookup _ _, _ | .pattern _, _ => []
  | .refusing _ value, outer => value.reads outer

theorem normalFields_eq_ok_iff_unrefused {fields : List (String × Value)} {refusals : Refusals}
    {members : List (String × Datum)} :
    normalFields fields refusals = .ok members ↔
      (∀ name ∈ fields.map Prod.fst, refusals.fault? (.attribute name) = none) ∧
        normalFields fields = .ok members := by
  induction fields generalizing members with
  | nil => simp [normalFields]
  | cons field rest ih =>
      rw [normalFields, normalFields, Refusals.allow_nil_bind, Refusals.allow_bind_eq_ok_iff,
        List.map_cons, List.forall_mem_cons]
      simp only [bind_eq_ok_iff]
      constructor
      · rintro ⟨readable, d, value, others, more, made⟩
        exact ⟨⟨readable, (ih.mp more).1⟩, d, value, others, (ih.mp more).2, made⟩
      · rintro ⟨⟨readable, rest⟩, d, value, others, more, made⟩
        exact ⟨readable, d, value, others, ih.mpr ⟨rest, more⟩, made⟩

namespace Value

theorem normal_eq_ok_iff_unrefused {v : Value} {outer : Bool} {refusals : Refusals} {d : Datum} :
    v.normal outer refusals = .ok d ↔
      (∀ name ∈ v.reads outer, refusals.fault? (.attribute name) = none) ∧
        v.normal outer = .ok d := by
  induction v using Value.inductRefusing generalizing refusals with
  | refusing more value ih =>
      rw [Value.normal, Value.normal, ih, @ih ([] ++ more), reads]
      simp only [Refusals.fault?_append_eq_none_iff, Refusals.fault?_nil]
      grind
  | scalar s =>
      cases asked : s.reader? with
      | none => simp [Value.normal, reads, asked]
      | some name => simp [Value.normal, reads, asked, Refusals.allow_map_eq_ok_iff]
  | member mixin cls name value =>
      cases scalar : mixin.normal? outer with
      | some d => simp [Value.normal, reads, scalar]
      | none => simp [Value.normal, reads, scalar, Refusals.allow_bind_eq_ok_iff]
  | data cls fields missing =>
      simp only [Value.normal, reads, bind_eq_ok_iff, Refusals.forM_allow_eq_ok_iff,
        @normalFields_eq_ok_iff_unrefused fields refusals, List.forall_mem_append,
        Refusals.fault?_nil]
      grind
  | lookup status value => simp [Value.normal, reads]
  | pattern p => simp [Value.normal, reads]
  | known cls parts => simp [Value.normal, reads, Refusals.allow_map_eq_ok_iff]
  | _ => simp [Value.normal, reads, Refusals.allow_bind_eq_ok_iff, and_assoc]

theorem normal_refusing_eq_ok_iff {more : Refusals} {v : Value} {outer : Bool} {d : Datum} :
    (refusing more v).normal outer = .ok d ↔
      (∀ name ∈ v.reads outer, more.fault? (.attribute name) = none) ∧
        v.normal outer = .ok d := by
  rw [Value.normal, normal_eq_ok_iff_unrefused, List.nil_append]

theorem normal_of_refusing {more : Refusals} {v : Value} {outer : Bool} {d : Datum}
    (normal : (refusing more v).normal outer = .ok d) : v.normal outer = .ok d := by
  exact (normal_refusing_eq_ok_iff.mp normal).2

theorem fragment_refusing_eq_ok_iff {more : Refusals} {v : Value} {text : String} :
    (refusing more v).fragment = .ok text ↔
      (∀ name ∈ v.reads true, more.fault? (.attribute name) = none) ∧ v.fragment = .ok text := by
  simp only [fragment, bind_eq_ok_iff, normal_refusing_eq_ok_iff, and_assoc,
    exists_and_left, fragmentOf]

end Value

end CachePolicy
