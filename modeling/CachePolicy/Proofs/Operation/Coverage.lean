import CachePolicy.Operation.Signature
import CachePolicy.Proofs.Key.Rendering
import CachePolicy.Proofs.Table

/-!
# Names that a call binds

Every bound call binds the names that the template of a signature may use, no more and
no fewer.  So a placeholder that passed the check of a template has a value in every
bound call, and no key is missing one.
-/

namespace CachePolicy

/-- A fault of a key is that of a missing binding for no name, and is only called like one when a
value refused a read with a failure of that name. -/
structure NothingMissing (fault : Fault) : Prop where
  bound : ∀ name, fault ≠ .missingBinding name
  refused : fault.name = "KeyError" → ∃ refusal, fault = .readRefused refusal

theorem KeyFault.nothingMissing {fault : Fault} (keyFault : KeyFault fault) :
    NothingMissing fault := by
  cases keyFault with
  | integerTooLong => exact ⟨nofun, by simp [Fault.name]⟩
  | readRefused refusal => exact ⟨nofun, fun _ => ⟨refusal, rfl⟩⟩

namespace Signature

variable {s rest : Signature} {p : Parameter} {a : Arguments} {bound : Bindings}

theorem names_of_map {others : Option Bindings} {value : Value}
    (behind : ∀ {bound : Bindings}, others = some bound →
      bound.map Prod.fst = rest.map Parameter.name)
    (filled : others.map ((p.name, value) :: ·) = some bound) :
    bound.map Prod.fst = (p :: rest).map Parameter.name := by
  obtain ⟨bound, isBound, rfl⟩ := Option.map_eq_some_iff.mp filled
  rw [List.map_cons, List.map_cons, behind isBound]

/-- Whatever its kind, a parameter gets just one entry, under its own name. -/
theorem fill_names {strict : Bool} {items : List Value} {keywords : Table String Value}
    (filled : fill strict s items keywords = some bound) :
    bound.map Prod.fst = s.map Parameter.name := by
  fun_induction fill strict s items keywords generalizing bound with
  | case1 =>
      cases filled
      rfl
  -- a call that does not fit is not filled; every other case fills one parameter
  | case2 | case6 | case8 | case9 | case12 | case14 | case15 => cases filled
  | case3 | case4 | case5 | case7 | case10 | case11 | case13 =>
      rename_i behind
      exact names_of_map behind filled

theorem bind_names (binds : s.bind a = some bound) : bound.map Prod.fst = s.argumentNames := by
  obtain ⟨received, filled, rfl⟩ := Option.map_eq_some_iff.mp binds
  rw [argumentNames, ← fill_names filled, List.filter_map]
  rfl

theorem bind_isSome_iff (binds : s.bind a = some bound) (name : String) :
    (bound.get? name).isSome ↔ name ∈ s.argumentNames := by
  rw [← bind_names binds, Option.isSome_iff_ne_none, ne_eq, Table.get?_eq_none_iff, not_not]

theorem mem_argumentNames_iff {name : String} :
    name ∈ s.argumentNames ↔ name ≠ discarded ∧ ∃ p ∈ s, p.name = name := by
  simp [argumentNames, and_comm]

theorem bound_names_cover (binds : s.bind a = some bound) :
    bound.map Prod.fst = s.argumentNames ∧
      (∀ name, (bound.get? name).isSome ↔ name ≠ discarded ∧ ∃ p ∈ s, p.name = name) ∧
      ∀ template operation mode key,
        CompiledKey.compile template s.argumentNames operation mode = .ok key →
          (∀ name ∈ key.placeholders, ∃ value, bound.get? name = some value) ∧
            ∀ fault, key.render bound = .error fault → NothingMissing fault := by
  refine ⟨bind_names binds, fun name => ?_, fun template operation mode key compiled => ?_⟩
  · rw [bind_isSome_iff binds, mem_argumentNames_iff]
  · have covers : ∀ name ∈ key.placeholders, (bound.get? name).isSome := fun name placed =>
      (bind_isSome_iff binds name).mpr (CompiledKey.placeholders_known compiled name placed)
    refine ⟨fun name placed => Option.isSome_iff_exists.mp (covers name placed), ?_⟩
    intro fault failed
    exact ((key.render_eq_error_iff covers).mp failed).keyFault.nothingMissing

/-- A keyword is collected that has the name of a parameter, what is thrown away collects the
positional values, and one parameter has its default. -/
theorem bound_names_cover_collected :
    let s : Signature :=
      [⟨"user", .positionalOnly, none⟩, ⟨"page", .ordinary, some (.int 1)⟩,
        ⟨"_", .variadic, none⟩, ⟨"order", .keywordOnly, some (.text "id")⟩,
        ⟨"filters", .keywords, none⟩]
    let a : Arguments := ⟨[.text "Ann", .int 2, .int 3], [("user", .null)]⟩
    let bound : Bindings :=
      [("user", .text "Ann"), ("page", .int 2), ("order", .text "id"),
        ("filters", .dict false [(.text "user", .null)])]
    let key : CompiledKey :=
      ⟨"\x7buser\x7d?\x7bfilters\x7d",
        [.placeholder "user", .literal "?", .placeholder "filters"]⟩
    s.bind a = some bound ∧
      CompiledKey.compile (.text key.template) s.argumentNames "app.list_users/5" "cache" =
        .ok key ∧
      bound.map Prod.fst = s.argumentNames ∧
      (∀ name ∈ key.placeholders, ∃ value, bound.get? name = some value) ∧
      ∀ fault, key.render bound = .error fault → NothingMissing fault := by
  intro s a bound key
  have binds : s.bind a = some bound := rfl
  have compiled : CompiledKey.compile (.text key.template) s.argumentNames "app.list_users/5"
      "cache" = .ok key := by
    cbv
  obtain ⟨names, -, covered⟩ := bound_names_cover binds
  exact ⟨binds, compiled, names, covered _ _ _ _ compiled⟩

end Signature

end CachePolicy
