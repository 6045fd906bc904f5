import CachePolicy.Proofs.Operation.Arguments
import CachePolicy.Session.Call
import Mathlib.Data.List.Nodup

/-!
# Bound calls

A body receives what its call gives to the parameters.  Binding gives the same values,
but it refuses a call that hides a positional-only parameter: one that leaves it to its
default and has a keyword of its name.  A layer intercepts the calls that are bound, and
lets all others through.
-/

namespace CachePolicy

namespace Signature

variable {a : Arguments}

/-! ## Receiving and binding -/

theorem receive_eq_some_iff {s : Signature} (wellFormed : WellFormed s) {received : Bindings} :
    s.receive a = some received ↔ s.Accepts a ∧ s.assigned a = received := by
  rw [receive, fill_eq_some_iff wellFormed]
  constructor
  · exact fun fills => ⟨fills.accepts, fills.values⟩
  · exact fun ⟨accepts, values⟩ => ⟨accepts, nofun, values⟩

theorem receive_eq_none_iff {s : Signature} (wellFormed : WellFormed s) :
    s.receive a = none ↔ ¬ s.Accepts a := by
  rw [Option.eq_none_iff_forall_ne_some]
  constructor
  · exact fun none accepts => none _ ((receive_eq_some_iff wellFormed).mpr ⟨accepts, rfl⟩)
  · exact fun refused received some => refused ((receive_eq_some_iff wellFormed).mp some).1

theorem bind_eq_some_iff {s : Signature} (wellFormed : WellFormed s) {bound : Bindings} :
    s.bind a = some bound ↔ ¬ s.Hides a ∧ ∃ received, s.receive a = some received ∧
      (received.filter fun entry => entry.1 ≠ discarded) = bound := by
  rw [bind, Option.map_eq_some_iff]
  constructor
  · rintro ⟨received, filled, rfl⟩
    have fills := (fill_eq_some_iff wellFormed _ _ _ _).mp filled
    exact ⟨fills.shown rfl, received,
      (receive_eq_some_iff wellFormed).mpr ⟨fills.accepts, fills.values⟩, rfl⟩
  · rintro ⟨shown, received, isReceived, rfl⟩
    obtain ⟨accepts, values⟩ := (receive_eq_some_iff wellFormed).mp isReceived
    exact ⟨received, (fill_eq_some_iff wellFormed _ _ _ _).mpr ⟨accepts, fun _ => shown, values⟩,
      rfl⟩

theorem bind_eq_none_iff {s : Signature} (wellFormed : WellFormed s) :
    s.bind a = none ↔ s.receive a = none ∨ s.Hides a := by
  rw [Option.eq_none_iff_forall_ne_some]
  constructor
  · intro none
    cases received : s.receive a with
    | none => exact .inl rfl
    | some values =>
        refine .inr (Classical.byContradiction fun shown => ?_)
        exact none _ ((bind_eq_some_iff wellFormed).mpr ⟨shown, values, received, rfl⟩)
  · rintro refused bound some
    obtain ⟨shown, values, received, -⟩ := (bind_eq_some_iff wellFormed).mp some
    rcases refused with none | hides
    · simp [none] at received
    · exact shown hides

theorem eq_of_name_eq {s : Signature} (wellFormed : WellFormed s) {p q : Parameter} (first : p ∈ s)
    (second : q ∈ s) (same : p.name = q.name) : p = q :=
  List.inj_on_of_nodup_map wellFormed.distinct first second same

/-- Only a signature that collects keywords has a call that it accepts and that hides one of its
parameters. -/
theorem Accepts.collects_of_hides {s : Signature} (accepts : s.Accepts a)
    (wellFormed : WellFormed s) (hides : s.Hides a) :
    (∃ p ∈ s, p.kind = .positionalOnly ∧ p.default?.isSome) ∧ ∃ p ∈ s, p.kind = .keywords := by
  obtain ⟨p, member, only, unplaced, named⟩ := hides
  constructor
  · refine ⟨p, member, only, ?_⟩
    simpa [value?, only, unplaced] using accepts.filled p member
  · refine accepts.keywords.resolve_left fun none => ?_
    obtain ⟨value, held⟩ := Option.isSome_iff_exists.mp named
    have extra := List.filter_eq_nil_iff.mp none _ (Table.mem_of_get? held)
    simp only [Bool.not_eq_true', Bool.not_eq_false, List.any_eq_true, Bool.and_eq_true,
      decide_eq_true_eq] at extra
    obtain ⟨q, other, takes, same⟩ := extra
    obtain rfl := eq_of_name_eq wellFormed other member same
    simp [Parameter.takesKeyword, only] at takes

end Signature

/-! ## Calls through a layer -/

namespace DeclaredFunction

variable {f : DeclaredFunction} {env : Environment} {script : StepScript} {override : Option Body}
  {a : Arguments} {layer : Layer} {inner : List Layer} {scene : Scene}

/-- What the settings leave behind when a layer asks whether it is enabled. -/
def asked (layer : Layer) (env : Environment) (scene : Scene) : Scene :=
  { scene with memo := (layer.decorator.enabled env scene.memo).2 }

theorem callThrough_of_bind_eq_some
    (enabled : (layer.decorator.enabled env scene.memo).1.bind Value.truth = .ok true)
    {bound : Bindings} (binds : f.signature.bind a = some bound) :
    f.callThrough env script override a (layer :: inner) scene =
      (layer.operation.interception f.style bound layer.decorator.config).exec
        (Scene.handler script layer.decorator.backend
          (f.callThrough env script override a inner)) (asked layer env scene) := by
  simp only [callThrough, enabled, binds, asked]

theorem callThrough_of_bind_eq_none
    (enabled : (layer.decorator.enabled env scene.memo).1.bind Value.truth = .ok true)
    (unbound : f.signature.bind a = none) :
    f.callThrough env script override a (layer :: inner) scene =
      f.callThrough env script override a inner (asked layer env scene) := by
  simp only [callThrough, enabled, unbound, asked]

end DeclaredFunction

namespace Signature

/-- A call is bound to what the body receives, and intercepted by every enabled layer, unless it
is refused by the function itself or hides a parameter. -/
theorem binding_agrees_unless_hidden {s : Signature} (wellFormed : s.WellFormed) (a : Arguments) :
    (∀ received, s.receive a = some received ↔ s.Accepts a ∧ s.assigned a = received) ∧
      (s.bind a = none ↔ s.receive a = none ∨ s.Hides a) ∧
      (∀ bound, s.bind a = some bound → ∃ received, s.receive a = some received ∧
        bound = received.filter fun entry => entry.1 ≠ discarded) ∧
      (s.Accepts a → s.Hides a →
        (∃ p ∈ s, p.kind = .positionalOnly ∧ p.default?.isSome) ∧ ∃ p ∈ s, p.kind = .keywords) ∧
      ∀ (f : DeclaredFunction) env script override layer inner (scene : Scene),
        f.signature = s →
        (layer.decorator.enabled env scene.memo).1.bind Value.truth = .ok true →
        let inside := f.callThrough env script override a inner
        let asked := DeclaredFunction.asked layer env scene
        (s.Accepts a ∧ ¬ s.Hides a → ∃ bound, s.bind a = some bound ∧
          f.callThrough env script override a (layer :: inner) scene =
            (layer.operation.interception f.style bound layer.decorator.config).exec
              (Scene.handler script layer.decorator.backend inside) asked) ∧
        (¬ s.Accepts a ∨ s.Hides a →
          f.callThrough env script override a (layer :: inner) scene = inside asked) := by
  refine ⟨fun _ => receive_eq_some_iff wellFormed, bind_eq_none_iff wellFormed, ?_,
    fun accepts hides => accepts.collects_of_hides wellFormed hides, ?_⟩
  · intro bound binds
    obtain ⟨-, received, isReceived, same⟩ := (bind_eq_some_iff wellFormed).mp binds
    exact ⟨received, isReceived, same.symm⟩
  · rintro f env script override layer inner scene rfl enabled inside asked
    constructor
    · rintro ⟨accepts, shown⟩
      have received := (receive_eq_some_iff wellFormed).mpr ⟨accepts, rfl⟩
      have binds := (bind_eq_some_iff wellFormed).mpr ⟨shown, _, received, rfl⟩
      exact ⟨_, binds, DeclaredFunction.callThrough_of_bind_eq_some enabled binds⟩
    · intro refused
      rw [← receive_eq_none_iff wellFormed, ← bind_eq_none_iff wellFormed] at refused
      exact DeclaredFunction.callThrough_of_bind_eq_none enabled refused

/-- A function that lists users, and keeps each list under its page. -/
def listing (signature : Signature) : DeclaredFunction where
  callable := ⟨some "app", some "list_users", some (some "list_users"), "list_users"⟩
  signature := signature
  documentation := none
  asynchronous := false
  bodies := [.collects]
  layers := [{
    decorator := ⟨0, .null, some (.flag true), 0⟩
    operation := {
      name := "app.list_users"
      argumentNames := signature.argumentNames
      mode := .cache
      key := ⟨"page:\x7bpage\x7d", [.literal "page:", .placeholder "page"]⟩
      guard := .always
      options := [] } }]
  runs := 0

/-- One memory backend with nothing in it, and nothing read yet. -/
def freshScene : Scene :=
  ⟨[.ofBackend (.memory (.empty "")) .none], .empty, [], 0⟩

/-- A keyword with the name of a positional-only parameter that has its value goes to the
parameter that collects keywords. -/
theorem binding_agrees_unless_hidden_collected :
    let s : Signature :=
      [⟨"group", .positionalOnly, none⟩, ⟨"page", .ordinary, some (.int 1)⟩,
        ⟨"names", .variadic, none⟩, ⟨"order", .keywordOnly, some (.text "id")⟩,
        ⟨"filters", .keywords, none⟩]
    let a : Arguments := ⟨[.text "all", .int 2, .text "Ann"], [("group", .null)]⟩
    let f := listing s
    ∃ layer bound, f.layers = [layer] ∧ s.WellFormed ∧ s.Accepts a ∧ ¬ s.Hides a ∧
      s.bind a = some bound ∧
      f.callThrough [] .none none a [layer] freshScene =
        (layer.operation.interception .direct bound .null).exec
          (Scene.handler .none 0 (f.callThrough [] .none none a [])) freshScene := by
  intro s a f
  have wellFormed : s.WellFormed := ⟨by decide, by decide⟩
  obtain ⟨receives, unbound, -, -, calls⟩ := binding_agrees_unless_hidden wellFormed a
  have accepts : s.Accepts a := ((receives _).mp rfl).1
  have shown : ¬ s.Hides a := fun hides => nomatch unbound.mpr (.inr hides)
  obtain ⟨bound, binds, called⟩ :=
    (calls f [] .none none (f.layers.head (by simp [f, listing])) [] freshScene rfl rfl).1
      ⟨accepts, shown⟩
  exact ⟨_, bound, rfl, wellFormed, accepts, shown, binds, called⟩

/-- The function accepts the call and lists its first page, but no backend is asked. -/
theorem hidden_parameter_bypasses :
    let s : Signature :=
      [⟨"page", .positionalOnly, some (.int 1)⟩, ⟨"filters", .keywords, none⟩]
    let a : Arguments := ⟨[], [("page", .int 2)]⟩
    let received : Bindings :=
      [("page", .int 1), ("filters", .dict false [(.text "page", .int 2)])]
    let f := listing s
    s.WellFormed ∧ s.receive a = some received ∧ s.bind a = none ∧
      f.callThrough [] .none none a f.layers freshScene =
        (.ok (.dict false (keywordEntries received)), { freshScene with runs := 1 }) := by
  exact ⟨⟨by decide, by decide⟩, rfl, rfl, rfl⟩

end Signature

end CachePolicy
