import CachePolicy.Proofs.Key.Rendering
import Mathlib.Data.List.Permutation

/-!
# Values that have no fragment

A key is rendered for every call that binds its names, unless one of its placeholders is
bound to an unwritable value, and then the fault comes from such a value.
-/

namespace CachePolicy

theorem sortedItems_fails_iff (items : List Datum) :
    Fails (sortedItems items) ↔ ∃ d ∈ items, d.Overlong := by
  have keyed : ∀ d : Datum, Fails (do return (← d.chars Datum.sorting, d)) ↔ d.Overlong :=
    fun d => (Fails.map_iff _).trans (Datum.chars_fails_iff _ d)
  rw [sortedItems]
  exact (Fails.map_iff _).trans ((Fails.mapM_iff items).trans (by simp only [keyed]))

/-! ## Parts that fail -/

theorem normalItems_fails_iff (items : List Value) :
    Fails (normalItems items) ↔ ∃ v ∈ items, Fails v.normal := by
  rw [normalItems_eq_mapM, Fails.mapM_iff]

theorem normalFields_fails {fields : List (String × Value)} {refusals : Refusals} {name : String}
    {v : Value} (member : (name, v) ∈ fields) (fails : Fails v.normal) :
    Fails (normalFields fields refusals) := by
  rw [← not_not (a := Fails _), Fails.not_iff_ok]
  rintro ⟨members, made⟩
  have plain := (normalFields_eq_ok_iff_unrefused.mp made).2
  rw [normalFields_eq_mapM, mapM_eq_ok_iff] at plain
  obtain ⟨_, -, made⟩ := exists_of_mem_left plain member
  obtain ⟨d, normal, -⟩ := map_eq_ok_iff.mp made
  exact Fails.not_iff_ok.mpr ⟨d, normal⟩ fails

theorem normalEntries_fails {entries : List (Value × Value)} {k v : Value}
    (member : (k, v) ∈ entries) (fails : Fails k.fragment ∨ Fails v.normal) :
    Fails (normalEntries entries) := by
  rw [normalEntries_eq_mapM, Fails.mapM_iff]
  refine ⟨(k, v), member, ?_⟩
  rcases fails with key | value
  · exact .bind_left _ key
  · exact .bind_right fun _ _ => .bind_left _ value

namespace Value

variable {v : Value} {outer : Bool} {refusals : Refusals} {name : String} {fault : Fault}

theorem normal_fails_of_refused (reads : name ∈ v.reads outer)
    (refused : refusals.fault? (.attribute name) = some fault) :
    Fails (v.normal outer refusals) := by
  rw [← not_not (a := Fails _), Fails.not_iff_ok]
  rintro ⟨d, normal⟩
  rw [(normal_eq_ok_iff_unrefused.mp normal).1 name reads] at refused
  cases refused

/-- The fragment of a value is written from its plain form. -/
theorem fragmentOf_fails_iff {d : Datum} (normal : v.normal true = .ok d) :
    Fails (v.fragmentOf d) ↔ d.Overlong := by
  fun_induction Value.fragmentOf v d with
  | case1 =>
      cases normal
      exact iff_of_false (Fails.not_ok _) (by rintro ⟨⟩)
  | case2 =>
      cases normal
      exact iff_of_false (Fails.not_ok _) (by rintro ⟨⟩)
  | case3 =>
      cases normal
      exact iff_of_false (Fails.not_ok _) (by rintro ⟨⟩)
  | case4 mixin cls name value d noText ih =>
      refine ih ?_
      cases mixin with
      | text s => exact absurd rfl (noText s)
      | _ => exact normal
  | case5 more value d ih => exact ih (normal_of_refusing normal)
  | case6 => exact iff_of_false (Fails.not_ok _) (by rintro ⟨⟩)
  | case7 v d => exact Datum.print_fails_iff _ d

theorem fragment_fails_of_normal (fails : Fails (v.normal true)) : Fails v.fragment :=
  .bind_left _ fails

theorem fragment_fails_of_overlong {d : Datum} (normal : v.normal true = .ok d)
    (long : d.Overlong) : Fails v.fragment := by
  rw [fragment, normal]
  exact (fragmentOf_fails_iff normal).mpr long

end Value

/-! ## Unreducible values -/

mutual

theorem Value.Unreducible.fails {v : Value} {outer : Bool} {refusals : Refusals} {fault : Fault} :
    v.Unreducible outer refusals fault → Fails (v.normal outer refusals)
  | .read reads refused => Value.normal_fails_of_refused reads refused
  | .refusing part => part.fails
  | .listItem member part => by
      rw [Value.normal]
      exact .bind_right fun _ _ => .bind_left _
        ((normalItems_fails_iff _).mpr ⟨_, member, part.fails⟩)
  | .tupleItem member part => by
      rw [Value.normal]
      exact .bind_right fun _ _ => .bind_left _
        ((normalItems_fails_iff _).mpr ⟨_, member, part.fails⟩)
  | .element member part => by
      rw [Value.normal]
      exact .bind_right fun _ _ => .bind_left _
        ((normalItems_fails_iff _).mpr ⟨_, member, part.fails⟩)
  | .longElement member normal long => by
      rw [Value.normal]
      refine .bind_right fun _ _ => .bind_right fun ds made => .bind_left _ ?_
      rw [normalItems_eq_mapM, mapM_eq_ok_iff] at made
      obtain ⟨d, held, normal'⟩ := exists_of_mem_left made member
      cases normal.symm.trans normal'
      exact (sortedItems_fails_iff ds).mpr ⟨_, held, long.1⟩
  | .key member part => by
      rw [Value.normal]
      exact .bind_right fun _ _ => .bind_right fun _ _ => .bind_left _
        (normalEntries_fails member (.inl (Value.fragment_fails_of_normal part.fails)))
  | .longKey member normal long => by
      rw [Value.normal]
      exact .bind_right fun _ _ => .bind_right fun _ _ => .bind_left _
        (normalEntries_fails member (.inl (Value.fragment_fails_of_overlong normal long.1)))
  | .entry member part => by
      rw [Value.normal]
      exact .bind_right fun _ _ => .bind_right fun _ _ => .bind_left _
        (normalEntries_fails member (.inr part.fails))
  | .member valued part => by
      rw [Value.normal, valued]
      exact .bind_right fun _ _ => part.fails
  | .field member part => by
      rw [Value.normal]
      exact .bind_left _ (normalFields_fails member part.fails)
  | .namedField undumped member part => by
      rw [Value.normal, undumped]
      exact .bind_right fun _ _ => .bind_left _ (normalFields_fails member part.fails)
  | .dump inherited part => by
      rw [Value.normal, inherited]
      exact .bind_right fun _ _ => .bind_left _ (.bind_left _ part.fails)
  | .looked part => by
      rw [Value.normal]
      exact .bind_left _ part.fails
  | .pattern part => part.fails

theorem Pattern.Unreducible.fails {p : Pattern} {fault : Fault} :
    p.Unreducible fault → Fails p.normal
  | .exact part => by
      rw [Pattern.normal]
      exact .bind_left _ part.fails
  | .element member part => by
      rw [Pattern.normal, normalPatterns_eq_mapM]
      exact .bind_left _ ((Fails.mapM_iff _).mpr ⟨_, member, part.fails⟩)
  | .field member part => by
      rw [Pattern.normal, normalMatchers_eq_mapM]
      exact .bind_left _ ((Fails.mapM_iff _).mpr ⟨_, member, .bind_left _ part.fails⟩)

end

theorem Value.fragment_fails_iff (v : Value) :
    Fails v.fragment ↔ ∃ fault, v.Unwritable fault := by
  constructor
  · rintro ⟨fault, failed⟩
    exact ⟨fault, v.fragment_unwritable fault failed⟩
  · rintro ⟨fault, part | ⟨normal, long⟩⟩
    · exact fragment_fails_of_normal part.fails
    · exact fragment_fails_of_overlong normal long.1

/-! ## Keys -/

namespace CompiledKey

variable {bindings : Bindings}

theorem segmentText_fails_iff {segment : Segment}
    (covers : ∀ name, segment.name? = some name → (bindings.get? name).isSome) :
    Fails (segmentText bindings segment) ↔ ∃ name, segment.name? = some name ∧
      ∃ value, bindings.get? name = some value ∧ ∃ fault, value.Unwritable fault := by
  cases segment with
  | literal text => simp [segmentText, Segment.name?]
  | placeholder name =>
      obtain ⟨held, bound⟩ := Option.isSome_iff_exists.mp (covers name rfl)
      simp [segmentText, Segment.name?, bound, held.fragment_fails_iff]

theorem render_fails_iff {key : CompiledKey}
    (covers : ∀ name ∈ key.placeholders, (bindings.get? name).isSome) :
    Fails (key.render bindings) ↔ ∃ name ∈ key.placeholders,
      ∃ value, bindings.get? name = some value ∧ ∃ fault, value.Unwritable fault := by
  rw [render, Fails.map_iff, Fails.mapM_iff]
  have covered : ∀ segment ∈ key.segments, ∀ name, segment.name? = some name →
      (bindings.get? name).isSome := fun segment member name named =>
    covers name (List.mem_filterMap.mpr ⟨segment, member, named⟩)
  constructor
  · rintro ⟨segment, member, fails⟩
    obtain ⟨name, named, broken⟩ := (segmentText_fails_iff (covered segment member)).mp fails
    exact ⟨name, List.mem_filterMap.mpr ⟨segment, member, named⟩, broken⟩
  · rintro ⟨name, placed, broken⟩
    obtain ⟨segment, member, named⟩ := List.mem_filterMap.mp placed
    exact ⟨segment, member,
      (segmentText_fails_iff (covered segment member)).mpr ⟨name, named, broken⟩⟩

theorem render_unwritable {key : CompiledKey}
    (covers : ∀ name ∈ key.placeholders, (bindings.get? name).isSome) :
    FailsOnly (fun fault => ∃ name ∈ key.placeholders,
      ∃ value, bindings.get? name = some value ∧ value.Unwritable fault) (key.render bindings) := by
  rw [render]
  refine FailsOnly.bind (.mapM fun segment member => ?_) fun _ _ => .ok _
  cases segment with
  | literal text => exact .ok _
  | placeholder name =>
      have placed : name ∈ key.placeholders := List.mem_filterMap.mpr ⟨_, member, rfl⟩
      obtain ⟨held, bound⟩ := Option.isSome_iff_exists.mp (covers name placed)
      rw [segmentText, bound]
      exact held.fragment_unwritable.imp fun _ broken => ⟨name, placed, held, bound, broken⟩

theorem rendered_iff_writable {template : Value} {known : List String} {operation mode : String}
    {key : CompiledKey} (compiled : compile template known operation mode = .ok key)
    (covers : ∀ name ∈ known, (bindings.get? name).isSome) :
    ((∃ text, key.render bindings = .ok text) ↔ ¬ ∃ name ∈ key.placeholders,
        ∃ value, bindings.get? name = some value ∧ ∃ fault, value.Unwritable fault) ∧
      ∀ fault, key.render bindings = .error fault → KeyFault fault ∧
        ∃ name ∈ key.placeholders,
          ∃ value, bindings.get? name = some value ∧ value.Unwritable fault := by
  have covered : ∀ name ∈ key.placeholders, (bindings.get? name).isSome :=
    fun name member => covers name (placeholders_known compiled name member)
  constructor
  · rw [← Fails.not_iff_ok, render_fails_iff covered]
  · intro fault failed
    obtain ⟨name, placed, value, bound, broken⟩ := render_unwritable covered fault failed
    exact ⟨broken.keyFault, name, placed, value, bound, broken⟩

/-- The key of an account and its tags. -/
def accountKey : CompiledKey :=
  ⟨"\x7baccount\x7d:\x7btags\x7d", [.placeholder "account", .literal ":", .placeholder "tags"]⟩

/-- An account that can neither be dumped nor shown is written by its place, a field that is
not set is null, and a set may hold what has no order. -/
theorem rendered_iff_writable_place :
    let account : Value := .object none [] .absent false .raises
    let tag : Value := .data "Tag" [("id", .null)] ["colour"]
    let tags : Value := .set false [.text "b", .set true [.null, .scalar (.float .nan)], tag]
    let bindings : Bindings := [("account", account), ("tags", tags)]
    compile (.text accountKey.template) ["account", "tags"] "app.find/2" "cache" =
        .ok accountKey ∧
      (∀ name ∈ ["account", "tags"], (bindings.get? name).isSome) ∧
      ∃ text, accountKey.render bindings = .ok text := by
  intro account tag tags bindings
  have compiled : compile (.text accountKey.template) ["account", "tags"] "app.find/2" "cache" =
      .ok accountKey := by
    cbv
  have covers : ∀ name ∈ ["account", "tags"], (bindings.get? name).isSome := by
    simp [bindings, Table.get?]
  have accountWritten : account.fragment = .ok "<oracle_types.Model object at 0xADDR>" := rfl
  have tagsWritten :
      tags.fragment = .ok "[\"b\",[NaN,null],\x7b\"colour\":null,\"id\":null\x7d]" := by
    cbv
  refine ⟨compiled, covers, (rendered_iff_writable compiled covers).1.mpr ?_⟩
  rintro ⟨name, placed, value, bound, unwritable⟩
  rw [← value.fragment_fails_iff] at unwritable
  have named : name = "account" ∨ "tags" = name := by
    simpa [accountKey, placeholders, Segment.name?] using placed
  rcases named with rfl | rfl
  · obtain rfl : account = value := by simpa [bindings, Table.get?] using bound
    simp [accountWritten] at unwritable
  · obtain rfl : tags = value := by simpa [bindings, Table.get?] using bound
    simp [tagsWritten] at unwritable

def userKey : CompiledKey := ⟨"user:\x7buser\x7d", [.literal "user:", .placeholder "user"]⟩

/-- A user whose attribute cannot be read has no key, a mapping whose attributes are read as its
items has none, a record with a field that cannot be read has none, nor has a number of 4301
digits. -/
theorem unreadable_dump_unrendered :
    let broken : ReadFailure := ⟨.mk .runtime (some "attr model_dump") none none false, rfl⟩
    let absent : ReadFailure := ⟨.mk .key (some dumpName) none none false, rfl⟩
    let closed : ReadFailure := ⟨.mk .connection (some "closed") none none false, rfl⟩
    let unreadable : Value := .refusing [(.attribute dumpName, broken)]
      (.object (some "Ann") [] .absent false .absent)
    let mapping : Value := .refusing [(.attribute dumpName, absent)] (.dict false [])
    let record : Value := .refusing [(.attribute "name", closed)]
      (.data "User" [("id", .int 7), ("name", .text "Ann")] [])
    let long : Value := .int integerTextLimit
    compile (.text userKey.template) ["user"] "app.find_user/1" "cache" = .ok userKey ∧
      (∀ value : Value, ∀ name ∈ ["user"], (Table.get? [("user", value)] name).isSome) ∧
      userKey.render [("user", unreadable)] = .error (.readRefused broken) ∧
      userKey.render [("user", mapping)] = .error (.readRefused absent) ∧
      userKey.render [("user", record)] = .error (.readRefused closed) ∧
      Fails (userKey.render [("user", long)]) := by
  intro broken absent closed unreadable mapping record long
  have covers : ∀ value : Value, ∀ name ∈ ["user"],
      (Table.get? [("user", value)] name).isSome := by
    simp [Table.get?]
  have covered : ∀ name ∈ userKey.placeholders, (Table.get? [("user", long)] name).isSome :=
    covers long
  have unwritable : ∃ fault, long.Unwritable fault :=
    ⟨_, .long rfl ⟨.int (Nat.le_of_eq (Int.natAbs_natCast _).symm), rfl⟩⟩
  refine ⟨by cbv, covers, rfl, rfl, rfl, ?_⟩
  exact (render_fails_iff covered).mpr ⟨"user", List.mem_cons_self, long, rfl, unwritable⟩

end CompiledKey

end CachePolicy
