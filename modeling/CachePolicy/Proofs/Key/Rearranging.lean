import CachePolicy.Proofs.Key.Similar
import Mathlib.Logic.Relation

/-!
# Fragments and the order of collections

A set or a mapping may come in any order, at any depth of a value: the elements of a set
are sorted by their texts, and members of maps by their names.  Sorted texts tie only
where the elements are written the same.  What is shown, and not reduced to plain data,
keeps the order it came in.
-/

namespace CachePolicy

/-- The second value is the first one with the elements of a set or the entries of a mapping
in another order, at any depth behind values that are `Read` part by part. -/
inductive Value.Rearranged (Read : Value → Prop) : Value → Value → Prop
  | set (frozen : Bool) {items others : List Value} (perm : items.Perm others) :
      Rearranged Read (.set frozen items) (.set frozen others)
  | dict (readOnly : Bool) {entries others : List (Value × Value)} (apart : KeysApart entries)
      (perm : entries.Perm others) :
      Rearranged Read (.dict readOnly entries) (.dict readOnly others)
  | part {x y v w : Value} (inner : Rearranged Read x y) (exchanged : Exchanged x y v w)
      (read : Read v) : Rearranged Read v w
  | aside {x y v w : Value} (inner : Rearranged Read x y) (exchanged : ExchangedAside x y v w) :
      Rearranged Read v w
  | refusing (refusals : Refusals) {v w : Value} (inner : Rearranged Read v w) :
      Rearranged Read (.refusing refusals v) (.refusing refusals w)

namespace Value

variable {v w : Value}

theorem similar_set_of_perm (frozen : Bool) {items others : List Value}
    (perm : items.Perm others) : Similar (.set frozen items) (.set frozen others) := by
  refine .of_normal trivial trivial ?_
  have parts : Paired List.Perm (normalItems items) (normalItems others) := by
    rw [normalItems_eq_mapM, normalItems_eq_mapM]
    exact paired_mapM_of_perm perm
  refine parts.bind fun ds es reordered => ?_
  exact (paired_sortedItems_of_perm reordered).map fun ds es related => .list related

theorem similar_dict_of_perm (readOnly : Bool) {entries others : List (Value × Value)}
    (apart : KeysApart entries) (perm : entries.Perm others) :
    Similar (.dict readOnly entries) (.dict readOnly others) := by
  refine .of_normal trivial trivial ?_
  have parts : Paired List.Perm (normalEntries entries) (normalEntries others) := by
    rw [normalEntries_eq_mapM, normalEntries_eq_mapM]
    exact paired_mapM_of_perm perm
  have named := parts.and_left fun members made => (keysApart_iff_distinct made).mp apart
  refine named.map fun members members' reordered => ?_
  exact Datum.same_ofMembers_of_perm reordered.1 reordered.2

theorem Rearranged.reads_eq {Read : Value → Prop} (rearranged : Rearranged Read v w)
    (outer : Bool) : v.reads outer = w.reads outer := by
  induction rearranged with
  | set frozen perm => rfl
  | dict readOnly apart perm => rfl
  | part _ exchanged _ _ => exact exchanged.reads_eq outer
  | aside _ exchanged _ => exact exchanged.reads_eq outer
  | refusing refusals inner ih => exact ih

theorem Rearranged.similar (rearranged : Rearranged (fun whole => ¬ whole.Displayed) v w) :
    Similar v w := by
  induction rearranged with
  | set frozen perm => exact similar_set_of_perm frozen perm
  | dict readOnly apart perm => exact similar_dict_of_perm readOnly apart perm
  | part _ exchanged read similar => exact similar.exchanged exchanged read
  | aside _ exchanged similar => exact similar.aside exchanged
  | refusing refusals inner similar => exact similar.refusing inner.reads_eq refusals

theorem fragment_rearranged
    (rearranged : Relation.ReflTransGen (Rearranged fun whole => ¬ whole.Displayed) v w) :
    Concur v.fragment w.fragment := by
  induction rearranged with
  | refl => exact .refl _
  | tail _ step ih => exact ih.trans step.similar.fragment

/-- A model dumps a mapping with a set for a key, and with a set in a set in a record. -/
theorem fragment_rearranged_dump :
    let query (inner : List Value) : Value :=
      .data "Query" [("tags", .set false [.text "b", .set true inner])] []
    let sizes : Value := .set true [.null, .text "x"]
    let model (entries : List (Value × Value)) : Value :=
      .object none [] .absent false (.gives (.dict false entries))
    let left := model [(sizes, query [.null, .int 2]), (.text "page", .int 3)]
    let right := model [(.text "page", .int 3), (sizes, query [.int 2, .null])]
    Relation.ReflTransGen (Rearranged fun whole => ¬ whole.Displayed) left right ∧
      Concur left.fragment right.fragment := by
  intro query sizes model left right
  have inSet : Rearranged (fun whole => ¬ whole.Displayed) (.set true [.null, .int 2])
      (.set true [.int 2, .null]) :=
    .set true (.swap _ _ _)
  have inQuery : Rearranged (fun whole => ¬ whole.Displayed) (query [.null, .int 2])
      (query [.int 2, .null]) :=
    .part (.part inSet (.element false [_] []) id) (.dataField "Query" "tags" [] [] []) id
  have inModel : Rearranged (fun whole => ¬ whole.Displayed) left
      (model [(sizes, query [.int 2, .null]), (.text "page", .int 3)]) :=
    .part (.part inQuery (.entry false [] [_] sizes) id) (.dump none [] .absent false) id
  have apart : KeysApart [(sizes, query [.int 2, .null]), (.text "page", .int 3)] := by
    have set : sizes.fragment = .ok "[\"x\",null]" := by cbv
    exact keysApart_pair _ _ set rfl (by decide)
  have inDump : Rearranged (fun whole => ¬ whole.Displayed)
      (model [(sizes, query [.int 2, .null]), (.text "page", .int 3)]) right :=
    .part (.dict false apart (.swap _ _ _)) (.dump none [] .absent false) id
  have steps := (Relation.ReflTransGen.single inModel).tail inDump
  exact ⟨steps, fragment_rearranged steps⟩

/-- Answers in a report whose class refuses to dump it are shown in the order they came in. -/
theorem displayed_answers_keep_order :
    let report (answers : List (Value × Value)) : Value :=
      .named "Report" [("model_dump", .scalar (.kind .int)), ("answers", .dict false answers)]
    let left := report [(.flag true, .null), (.flag false, .null)]
    let right := report [(.flag false, .null), (.flag true, .null)]
    Rearranged (fun _ => True) left right ∧
      left.fragment =
        .ok "Report(model_dump=<class 'int'>, answers=\x7bTrue: None, False: None\x7d)" ∧
      right.fragment =
        .ok "Report(model_dump=<class 'int'>, answers=\x7bFalse: None, True: None\x7d)" := by
  intro report left right
  have apart : KeysApart [(.flag true, .null), (.flag false, .null)] :=
    keysApart_pair "true" "false" (by cbv) (by cbv) (by decide)
  have rearranged : Rearranged (fun _ => True) left right :=
    .part (.dict false apart (.swap _ _ _)) (.namedField "Report" "answers" [_] []) trivial
  exact ⟨rearranged, by cbv, by cbv⟩

end Value

end CachePolicy
