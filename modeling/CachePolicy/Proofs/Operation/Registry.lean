import CachePolicy.Operation.Registry
import CachePolicy.Proofs.Key.Reading
import CachePolicy.Proofs.Key.Rendering
import CachePolicy.Proofs.Results
import CachePolicy.Proofs.Table
import Mathlib.Data.Finset.Card

/-!
# Histories of registries

A declaration is refused for its mode, else for its template: one that is no text, then one
that is empty, then one with a placeholder among no known names, of which the leftmost is
reported.  A refusal leaves a registry as it was.  After any declarations a registry holds
the last accepted one of every name and mode, in the order in which these were first
accepted.
-/

namespace CachePolicy

/-! ## Refusals -/

namespace Segment

theorem parse_eq_nil_iff {text : String} : parse text = [] ↔ text = "" := by
  constructor
  · intro empty
    have printed := print_parse text
    rw [empty] at printed
    exact printed.symm
  · rintro rfl
    rfl

end Segment

namespace CompiledKey

/-- Why a template is refused; the placeholders in front of the reported one are known. -/
inductive Refused (template : Value) (known : List String) (operation mode : String) :
    Fault → Prop
  | untyped {shown : String} (noText : template.text? = none)
      (shows : template.shown = .ok shown) :
      Refused template known operation mode (.invalidTemplate shown operation mode template)
  | empty (blank : template.text? = some "") :
      Refused template known operation mode (.emptyTemplate operation mode)
  | unknown {text name : String} {front behind : List String}
      (written : template.text? = some text)
      (names : (Segment.parse text).filterMap Segment.name? = front ++ name :: behind)
      (knownFront : ∀ other ∈ front, other ∈ known) (unknownName : name ∉ known) :
      Refused template known operation mode (.unknownPlaceholder name operation mode template)

variable {template : Value} {known : List String} {operation mode : String} {fault : Fault}

theorem Refused.compile_eq_error (refused : Refused template known operation mode fault) :
    compile template known operation mode = .error fault := by
  cases refused with
  | untyped noText shows => simp [compile, noText, refusal, shows]
  | empty blank => simp [compile, blank, Segment.parse_eq_nil_iff]
  | @unknown text name front behind written names knownFront unknownName =>
      have filled : Segment.parse text ≠ [] := by
        intro empty
        simp [empty] at names
      have found : ((Segment.parse text).filterMap Segment.name?).find?
          (fun name => !known.contains name) = some name := by
        refine List.find?_eq_some_iff_append.mpr ⟨?_, front, behind, names, ?_⟩
        · simpa using unknownName
        · simpa using knownFront
      simp only [compile, written, List.isEmpty_iff, filled, if_false, found]

theorem refused_of_compile (shows : ∃ shown, template.shown = .ok shown)
    (failed : compile template known operation mode = .error fault) :
    Refused template known operation mode fault := by
  obtain ⟨shown, shows⟩ := shows
  unfold compile at failed
  split at failed
  · rename_i noText
    simp only [refusal, shows, Except.error.injEq] at failed
    exact failed ▸ .untyped noText shows
  · rename_i text written
    simp only [List.isEmpty_iff, Segment.parse_eq_nil_iff] at failed
    split at failed
    · rename_i blank
      cases failed
      exact .empty (blank ▸ written)
    · split at failed
      · rename_i name found
        obtain ⟨unknownName, front, behind, names, knownFront⟩ :=
          List.find?_eq_some_iff_append.mp found
        cases failed
        refine .unknown written names ?_ ?_
        · simpa using knownFront
        · simpa using unknownName
      · cases failed

end CompiledKey

namespace Declaration

def mode? (d : Declaration) : Option Mode := d.mode.text?.bind Mode.ofText?

/-- A mode that does not exist is reported before anything about the template. -/
inductive Refused (d : Declaration) : Fault → Prop
  | mode {shown : String} (unnamed : d.mode? = none) (shows : d.mode.shown = .ok shown) :
      Refused d (.unknownMode shown)
  | key {mode : Mode} {fault : Fault} (named : d.mode? = some mode)
      (refused : CompiledKey.Refused d.template d.argumentNames d.name mode.name fault) :
      Refused d fault

variable {d : Declaration} {op : Operation} {fault : Fault}

theorem operation_of_mode {mode : Mode} (named : d.mode? = some mode) :
    d.operation = do
      let key ← CompiledKey.compile d.template d.argumentNames d.name mode.name
      return ⟨d.name, d.argumentNames, mode, key, Guard.ofValue d.guard, d.options⟩ := by
  have moded : Mode.ofValue d.mode = .ok mode := by
    unfold mode? at named
    rw [Mode.ofValue, named]
  rw [operation, moded]
  rfl

theorem operation_eq_error_iff (modeShows : ∃ shown, d.mode.shown = .ok shown)
    (templateShows : ∃ shown, d.template.shown = .ok shown) :
    d.operation = .error fault ↔ d.Refused fault := by
  cases named : d.mode? with
  | none =>
      obtain ⟨shown, shows⟩ := modeShows
      have failed : d.operation = .error (.unknownMode shown) := by
        have unmoded : Mode.ofValue d.mode = .error (.unknownMode shown) := by
          unfold mode? at named
          rw [Mode.ofValue, named, shows]
          rfl
        rw [operation, unmoded]
        rfl
      rw [failed]
      constructor
      · rintro ⟨⟩
        exact .mode named shows
      · rintro (⟨-, shows'⟩ | ⟨named', -⟩)
        · cases shows.symm.trans shows'
          rfl
        · simp [named] at named'
  | some mode =>
      have same : d.operation = .error fault ↔
          CompiledKey.compile d.template d.argumentNames d.name mode.name = .error fault := by
        rw [operation_of_mode named]
        cases CompiledKey.compile d.template d.argumentNames d.name mode.name <;>
          simp [bind, Except.bind, pure, Except.pure]
      rw [same]
      constructor
      · intro failed
        exact .key named (CompiledKey.refused_of_compile templateShows failed)
      · rintro (⟨unnamed, -⟩ | ⟨named', refused⟩)
        · simp [named] at unnamed
        · cases named.symm.trans named'
          exact refused.compile_eq_error

end Declaration

theorem CompiledKey.written_of_compile {template : Value} {known : List String}
    {operation mode : String} {key : CompiledKey}
    (compiled : compile template known operation mode = .ok key) :
    key.segments ≠ [] ∧ Segment.print key.segments = key.template := by
  obtain ⟨written, parsed⟩ := segments_eq_parse compiled
  have filled : key.template ≠ "" := by
    intro blank
    rw [blank] at written
    have refused : Refused template known operation mode (.emptyTemplate operation mode) :=
      .empty written
    simp [refused.compile_eq_error] at compiled
  rw [parsed]
  exact ⟨mt Segment.parse_eq_nil_iff.mp filled, Segment.print_parse key.template⟩

/-- A text can be looked up, also one that is a member of an enumeration. -/
theorem Value.hashFault?_of_text? {v : Value} {text : String} (written : v.text? = some text)
    (refusals : Refusals := []) : v.hashFault? refusals = none := by
  fun_induction Value.text? v generalizing refusals with
  | case3 more value ih => exact ih written (refusals ++ more)
  | case4 => cases written
  | _ => rfl

/-! ## Histories -/

namespace Registry

/-- The operations of the declarations that are accepted, in their order. -/
def accepted (ds : List Declaration) : List Operation :=
  ds.filterMap fun d => d.operation.toOption

def ident (op : Operation) : String × Mode := (op.name, op.mode)

/-- The registry behind a registration, whether it failed or not. -/
def declare (r : Registry) (d : Declaration) : Registry := (r.register d).2

def after (ds : List Declaration) : Registry := ds.foldl declare []

def last? (ds : List Declaration) (name : String) (mode : Mode) : Option Operation :=
  ((accepted ds).filter fun op => ident op = (name, mode)).getLast?

/-- What a registration does: it makes the operation, and only then files it. -/
theorem register_eq (r : Registry) (d : Declaration) :
    r.register d = match d.operation with
      | .ok op => (.ok (op, if r.contains (ident op) then [replacedRow op] else []),
          r.put (ident op) op)
      | .error fault => (.error fault, r) := by
  unfold register registration
  cases d.operation <;> rfl

theorem register_eq_error_iff {r : Registry} {d : Declaration} {fault : Fault} :
    (r.register d).1 = .error fault ↔ d.operation = .error fault := by
  rw [register_eq]
  cases d.operation <;> simp

theorem declare_eq (r : Registry) (d : Declaration) :
    r.declare d = match d.operation with
      | .ok op => r.put (ident op) op
      | .error _ => r := by
  rw [declare, register_eq]
  cases d.operation <;> rfl

/-- A history only depends on the operations that it accepts. -/
theorem after_eq (ds : List Declaration) :
    after ds = Table.ofEntries ((accepted ds).map fun op => (ident op, op)) := by
  induction ds using List.reverseRecOn with
  | nil => rfl
  | append_singleton ds d ih =>
      have stepped : after (ds ++ [d]) = (after ds).declare d := by simp [after]
      rw [stepped, declare_eq, ih]
      cases declared : d.operation with
      | error fault => simp [accepted, declared, Except.toOption]
      | ok op =>
          simp only [accepted, List.filterMap_append, List.filterMap_cons, declared,
            Except.toOption, List.filterMap_nil, List.map_append, List.map_cons, List.map_nil,
            Table.ofEntries_concat]

theorem get?_after (ds : List Declaration) (name : String) (mode : Mode) :
    (after ds).get? (name, mode) = last? ds name mode := by
  rw [after_eq, Table.get?_ofEntries, List.filter_map, List.getLast?_map, Option.map_map]
  exact Option.map_id'

theorem keys_after (ds : List Declaration) :
    (after ds).map Prod.fst = ((accepted ds).map ident).eraseDups := by
  rw [after_eq, Table.keys_ofEntries, List.map_map]
  rfl

theorem distinct_after (ds : List Declaration) : (after ds).Distinct := by
  rw [after_eq]
  exact Table.distinct_ofEntries _

/-- An operation stands under its own name and mode, and its key is the reading of its
template with placeholders that it binds. -/
structure Filed (place : String × Mode) (op : Operation) : Prop where
  name : op.name = place.1
  mode : op.mode = place.2
  filled : op.key.segments ≠ []
  printed : Segment.print op.key.segments = op.key.template
  bound : ∀ name ∈ op.key.placeholders, name ∈ op.argumentNames

theorem filed_of_declared {d : Declaration} {op : Operation} (declared : d.operation = .ok op) :
    Filed (ident op) op := by
  obtain ⟨mode, -, rest⟩ := bind_eq_ok_iff.mp declared
  obtain ⟨key, compiled, same⟩ := bind_eq_ok_iff.mp rest
  obtain ⟨filled, printed⟩ := CompiledKey.written_of_compile compiled
  cases same
  exact ⟨rfl, rfl, filled, printed, Declaration.placeholders_bound declared⟩

theorem filed_of_mem_after {ds : List Declaration} {entry : (String × Mode) × Operation}
    (held : entry ∈ after ds) : Filed entry.1 entry.2 := by
  have found : last? ds entry.1.1 entry.1.2 = some entry.2 := by
    rw [← get?_after]
    exact (distinct_after ds).get?_eq_some_iff.mpr held
  obtain ⟨member, own⟩ := List.mem_filter.mp (List.mem_of_getLast? found)
  obtain ⟨d, -, made⟩ := List.mem_filterMap.mp member
  have declared : d.operation = .ok entry.2 := by
    cases result : d.operation with
    | error fault => simp [result, Except.toOption] at made
    | ok op => simpa [result, Except.toOption] using made
  have place : ident entry.2 = entry.1 := by simpa using own
  exact place ▸ filed_of_declared declared

theorem operations_after (ds : List Declaration) :
    (after ds).operations =
      ((accepted ds).map ident).eraseDups.filterMap fun place => last? ds place.1 place.2 := by
  rw [← keys_after, List.filterMap_map, operations]
  refine (List.filterMap_eq_map_iff_forall_eq_some.mpr fun entry member => ?_).symm
  rw [Function.comp_apply, ← get?_after]
  exact (distinct_after ds).get?_eq_some_iff.mpr member

theorem holds_eq {r : Registry} {v : Value} {text : String} (written : v.text? = some text)
    (name : String) :
    r.holds name v = .ok ((Mode.ofText? text).bind fun mode => r.get? (name, mode)).isSome := by
  have hashable : v.hashFault? = none := Value.hashFault?_of_text? written
  simp only [holds, hashable, written, Option.bind_some]
  cases Mode.ofText? text <;> rfl

theorem operation?_eq {r : Registry} {v : Value} {mode : Mode}
    (named : v.text?.bind Mode.ofText? = some mode) (name : String) :
    r.operation? name v = .ok (r.get? (name, mode)) := by
  simp [operation?, Mode.ofValue, named, bind, Except.bind, pure, Except.pure]

theorem after_registrations (ds : List Declaration) :
    (∀ d, (∃ shown, d.mode.shown = .ok shown) → (∃ shown, d.template.shown = .ok shown) →
        ∀ fault, ((after ds).register d).1 = .error fault ↔ d.Refused fault) ∧
      (∀ d, (∃ fault, ((after ds).register d).1 = .error fault) →
        after (ds ++ [d]) = after ds) ∧
      (∀ name v text, v.text? = some text →
        (after ds).holds name v = .ok ((Mode.ofText? text).bind (last? ds name)).isSome ∧
          ∀ mode, Mode.ofText? text = some mode →
            (after ds).operation? name v = .ok (last? ds name mode)) ∧
      (after ds).length = ((accepted ds).map ident).toFinset.card ∧
      (after ds).operations =
        ((accepted ds).map ident).eraseDups.filterMap (fun place => last? ds place.1 place.2) ∧
      ∀ entry ∈ after ds, Filed entry.1 entry.2 := by
  refine ⟨?_, ?_, ?_, ?_, operations_after ds, fun _ => filed_of_mem_after⟩
  · intro d modeShows shows fault
    rw [register_eq_error_iff]
    exact Declaration.operation_eq_error_iff modeShows shows
  · rintro d ⟨fault, failed⟩
    have stepped : after (ds ++ [d]) = (after ds).declare d := by simp [after]
    rw [stepped, declare_eq, register_eq_error_iff.mp failed]
  · intro name v text written
    constructor
    · simp only [holds_eq written, get?_after]
    · intro mode named
      rw [operation?_eq (by rw [written]; exact named), get?_after]
  · have keys := keys_after ds
    have distinct : ((after ds).map Prod.fst).Nodup := distinct_after ds
    have count : (after ds).length = ((after ds).map Prod.fst).length := (List.length_map _).symm
    rw [count, ← List.toFinset_card_of_nodup distinct, keys]
    congr 1
    ext place
    simp

/-- A failed declaration in the middle and one that replaces the first leave the order alone. -/
theorem after_registrations_replaced :
    let find (template : String) : Declaration :=
      ⟨"app.find/1", ["user"], .text "cache", .text template, .unset, []⟩
    let drop : Declaration :=
      ⟨"app.drop/1", ["user"],
        .member (.text "invalidate") "Mode" "INVALIDATE" (.text "invalidate"),
        .text "user:\x7buser\x7d", .text "ok", []⟩
    let wrong := find "\x7buser\x7d:\x7brole\x7d:\x7bteam\x7d"
    let ds := [find "user:\x7buser\x7d", wrong, drop, find "account:\x7buser\x7d"]
    ((∃ shown, wrong.mode.shown = .ok shown) ∧ ∃ shown, wrong.template.shown = .ok shown) ∧
      ((after ds).register wrong).1 =
        .error (.unknownPlaceholder "role" "app.find/1" "cache" wrong.template) ∧
      after (ds ++ [wrong]) = after ds ∧
      (after ds).operations.map (fun op => (op.name, op.key.template)) =
        [("app.find/1", "account:\x7buser\x7d"), ("app.drop/1", "user:\x7buser\x7d")] ∧
      (after ds).length = 2 := by
  intro find drop wrong ds
  obtain ⟨refusals, atomic, -, count, listed, -⟩ := after_registrations ds
  have modeShows : ∃ shown, wrong.mode.shown = .ok shown := ⟨_, rfl⟩
  have shows : ∃ shown, wrong.template.shown = .ok shown := ⟨_, rfl⟩
  have refused : wrong.Refused
      (.unknownPlaceholder "role" "app.find/1" "cache" wrong.template) := by
    have named : wrong.mode? = some .cache := rfl
    have names : (Segment.parse "\x7buser\x7d:\x7brole\x7d:\x7bteam\x7d").filterMap
        Segment.name? = ["user"] ++ "role" :: ["team"] := by
      decide
    exact .key named (.unknown rfl names (by decide) (by decide))
  have failed := (refusals wrong modeShows shows _).mpr refused
  refine ⟨⟨modeShows, shows⟩, failed, atomic wrong ⟨_, failed⟩, ?_, ?_⟩
  · rw [listed]
    cbv
  · rw [count]
    cbv

end Registry

end CachePolicy
