import CachePolicy.Operation.Basic
import CachePolicy.Proofs.Key.Faults

/-!
# Keys that cannot be rendered

The placeholders of a declared operation are among the names that it binds.  So its key
has a text for every call that binds these names, unless the value of a placeholder
has no fragment; the first such value decides about the fault.
-/

namespace CachePolicy

/-- The segments in front have texts, and the next one is a placeholder whose value has none. -/
inductive SegmentsBreak (bindings : Bindings) : List Segment → Fault → Prop
  | here {name : String} {held : Value} {rest : List Segment} {fault : Fault}
      (bound : bindings.get? name = some held) (fails : held.fragment = .error fault) :
      SegmentsBreak bindings (.placeholder name :: rest) fault
  | later {segment : Segment} {text : String} {rest : List Segment} {fault : Fault}
      (rendered : CompiledKey.segmentText bindings segment = .ok text)
      (breaks : SegmentsBreak bindings rest fault) :
      SegmentsBreak bindings (segment :: rest) fault

theorem SegmentsBreak.keyFault {bindings : Bindings} {segments : List Segment} {fault : Fault}
    (breaks : SegmentsBreak bindings segments fault) : KeyFault fault := by
  induction breaks with
  | here _ fails => exact Value.fragment_fails _ _ fails
  | later _ _ ih => exact ih

namespace CompiledKey

variable {bindings : Bindings} {fault : Fault}

theorem segmentText_eq_error_iff {segment : Segment}
    (covers : ∀ name, segment.name? = some name → (bindings.get? name).isSome) :
    segmentText bindings segment = .error fault ↔
      ∃ name held, segment = .placeholder name ∧ bindings.get? name = some held ∧
        held.fragment = .error fault := by
  cases segment with
  | literal text => simp [segmentText]
  | placeholder name =>
      obtain ⟨held, bound⟩ := Option.isSome_iff_exists.mp (covers name rfl)
      simp [segmentText, bound]

theorem mapM_segmentText_eq_error_iff (segments : List Segment)
    (covers : ∀ name ∈ segments.filterMap Segment.name?, (bindings.get? name).isSome) :
    segments.mapM (segmentText bindings) = .error fault ↔
      SegmentsBreak bindings segments fault := by
  induction segments with
  | nil =>
      simp only [List.mapM_nil, pure, Except.pure, reduceCtorEq, false_iff]
      exact nofun
  | cons segment rest ih =>
      have covered : ∀ name, segment.name? = some name → (bindings.get? name).isSome :=
        fun name named => covers name (by simp [named])
      have ih := ih fun name member => covers name (by
        cases named : segment.name? <;> simp [named, member])
      rw [List.mapM_cons]
      cases rendered : segmentText bindings segment with
      | error other =>
          simp only [bind, Except.bind, Except.error.injEq]
          obtain ⟨name, held, rfl, bound, fails⟩ :=
            (segmentText_eq_error_iff covered).mp rendered
          constructor
          · rintro rfl
            exact .here bound fails
          · rintro (⟨bound', fails'⟩ | ⟨rendered', -⟩)
            · obtain rfl := Option.some.inj (bound.symm.trans bound')
              exact Except.error.inj (fails.symm.trans fails')
            · simp [rendered] at rendered'
      | ok text =>
          have fine : ∀ {name held}, segment = .placeholder name →
              bindings.get? name = some held → held.fragment ≠ .error fault := by
            rintro name held rfl bound fails
            simp [segmentText, bound, fails] at rendered
          have same : (do let texts ← rest.mapM (segmentText bindings); return text :: texts) =
              .error fault ↔ rest.mapM (segmentText bindings) = .error fault := by
            cases rest.mapM (segmentText bindings) <;> simp [bind, Except.bind, pure, Except.pure]
          refine same.trans (ih.trans ⟨.later rendered, ?_⟩)
          generalize whole : segment :: rest = segments
          rintro (⟨bound, fails⟩ | ⟨-, breaks⟩)
          · cases whole
            exact absurd fails (fine rfl bound)
          · cases whole
            exact breaks

theorem render_eq_error_iff (key : CompiledKey)
    (covers : ∀ name ∈ key.placeholders, (bindings.get? name).isSome) :
    key.render bindings = .error fault ↔ SegmentsBreak bindings key.segments fault := by
  rw [← mapM_segmentText_eq_error_iff key.segments covers, render]
  cases key.segments.mapM (segmentText bindings) <;>
    simp [bind, Except.bind, pure, Except.pure]

theorem placeholders_known {template : Value} {known : List String} {operation mode : String}
    {key : CompiledKey} (compiled : compile template known operation mode = .ok key) :
    ∀ name ∈ key.placeholders, name ∈ known := by
  unfold compile at compiled
  split at compiled
  · cases compiled
  · simp only at compiled
    split at compiled
    · cases compiled
    · split at compiled
      · cases compiled
      · rename_i allKnown
        cases compiled
        intro name member
        simpa using List.find?_eq_none.mp allKnown name member

end CompiledKey

theorem Declaration.placeholders_bound {d : Declaration} {op : Operation}
    (registered : d.operation = .ok op) :
    ∀ name ∈ op.key.placeholders, name ∈ op.argumentNames := by
  unfold operation at registered
  cases moded : Mode.ofValue d.mode with
  | error fault => simp [moded, bind, Except.bind] at registered
  | ok mode =>
      cases compiled : CompiledKey.compile d.template d.argumentNames d.name mode.name with
      | error fault => simp [moded, compiled, bind, Except.bind] at registered
      | ok key =>
          simp only [moded, compiled, bind, Except.bind, pure, Except.pure,
            Except.ok.injEq] at registered
          subst registered
          exact CompiledKey.placeholders_known compiled

end CachePolicy
