import CachePolicy.Proofs.Key.Entries
import CachePolicy.Proofs.Key.Reordering

/-!
# Trees told by their fragments

A tree is made of null, flags, integers and texts by lists and by dictionaries from texts.
It is its own plain form, so it can be read back from it, and the fragment of a list or a
dictionary is the text of that form.  Two of them with one fragment are therefore the same
tree, but for the order of the entries of dictionaries.
-/

namespace CachePolicy

inductive Value.Tree : Value → Prop
  | null : Tree .null
  | flag (b : Bool) : Tree (.flag b)
  | int (n : Int) : Tree (.int n)
  | text (s : String) : Tree (.text s)
  | list {items : List Value} (each : ∀ v ∈ items, v.Tree) : Tree (.list items)
  | dict {fields : Table String Value} (distinct : fields.Distinct)
      (each : ∀ field ∈ fields, field.2.Tree) :
      Tree (.dict false (Signature.keywordEntries fields))

/-- The same trees, where dictionaries have the same under every name, in any order. -/
inductive Value.SameTree : Value → Value → Prop
  | null : SameTree .null .null
  | flag (b : Bool) : SameTree (.flag b) (.flag b)
  | int (n : Int) : SameTree (.int n) (.int n)
  | text (s : String) : SameTree (.text s) (.text s)
  | list {items others : List Value} (each : List.Forall₂ SameTree items others) :
      SameTree (.list items) (.list others)
  | dict {fields others : Table String Value}
      (each : ∀ name, Option.Rel SameTree (fields.get? name) (others.get? name)) :
      SameTree (.dict false (Signature.keywordEntries fields))
        (.dict false (Signature.keywordEntries others))

/-! ## Reading trees back -/

namespace Datum

mutual

/-- The tree that has this plain form. -/
def value : Datum → Value
  | null => .null
  | flag b => .flag b
  | int n => .int n
  | float x => .scalar (.float x)
  | text s => .text s
  | list items => .list (valueItems items)
  | map members => .dict false (Signature.keywordEntries (valueMembers members))

def valueItems : List Datum → List Value
  | [] => []
  | d :: rest => d.value :: valueItems rest

def valueMembers : List (String × Datum) → Table String Value
  | [] => []
  | (name, d) :: rest => (name, d.value) :: valueMembers rest

end

theorem valueItems_eq_map (items : List Datum) : valueItems items = items.map value := by
  induction items with
  | nil => rfl
  | cons d rest ih => rw [valueItems, ih, List.map_cons]

theorem valueMembers_eq_map (members : List (String × Datum)) :
    valueMembers members = members.map fun member => (member.1, member.2.value) := by
  induction members with
  | nil => rfl
  | cons member rest ih => rw [valueMembers, ih, List.map_cons]

theorem get?_valueMembers (members : Table String Datum) (name : String) :
    (valueMembers members).get? name = (members.get? name).map value := by
  induction members with
  | nil => rfl
  | cons member rest ih =>
      rw [valueMembers, Table.get?, Table.get?, ih]
      split <;> rfl

end Datum

theorem Datum.Same.distinct {members others : Table String Datum}
    (same : Same true (.map members) (.map others)) (distinct : members.Distinct) :
    others.Distinct := by
  cases same with
  | map names values =>
      rw [Table.Distinct, ← ((laid_perm true others).map Prod.fst).nodup_iff, ← names,
        ((laid_perm true members).map Prod.fst).nodup_iff]
      exact distinct

namespace Value

variable {v w : Value} {d e : Datum} {fields : Table String Value}

theorem normal_list_eq_ok_iff {items : List Value} :
    (list items).normal = .ok d ↔
      ∃ ds, List.Forall₂ (fun v d => v.normal = .ok d) items ds ∧ d = .list ds := by
  rw [normal, Refusals.allow_nil_bind, map_eq_ok_iff, normalItems_eq_mapM]
  simp only [mapM_eq_ok_iff]
  exact exists_congr fun ds => and_congr_right fun _ => eq_comm

/-- The names of a dictionary from texts are kept as they are. -/
theorem normal_named_eq_ok (distinct : fields.Distinct)
    (normal : (dict false (Signature.keywordEntries fields)).normal = .ok d) :
    ∃ members : Table String Datum, members.Distinct ∧
      Table.Alike (fun v d => v.normal = .ok d) fields members ∧ d = .map members := by
  obtain ⟨members, made, rfl⟩ := normal_dict_eq_ok_iff.mp normal
  rw [normalEntries_keywordEntries] at made
  have named := distinct.traverse made
  refine ⟨members, named, ?_, by rw [Table.ofEntries_of_distinct named]⟩
  refine (mapM_eq_ok_iff.mp made).imp fun field member made => ?_
  obtain ⟨_, value, rfl⟩ := map_eq_ok_iff.mp made
  exact ⟨rfl, value⟩

theorem Tree.collects (tree : v.Tree) (compound : v.Compound) : v.Collects := by
  cases tree with
  | list each =>
      intro d normal
      obtain ⟨ds, -, rfl⟩ := normal_list_eq_ok_iff.mp normal
      trivial
  | dict distinct each => exact collects_dict false _
  | _ => exact compound.elim

theorem Tree.eq_value (tree : v.Tree) (normal : v.normal = .ok d) : v = d.value := by
  induction tree generalizing d with
  | null => cases normal; rfl
  | flag b => cases normal; rfl
  | int n => cases normal; rfl
  | text s => cases normal; rfl
  | @list items _ each =>
      obtain ⟨ds, related, rfl⟩ := normal_list_eq_ok_iff.mp normal
      have items_eq := map_eq_map_of_forall₂ (f := id) (g := Datum.value) related
        fun v member d normal => each v member normal
      rw [Datum.value, Datum.valueItems_eq_map, ← items_eq, List.map_id]
  | @dict fields distinct _ each =>
      obtain ⟨members, -, related, rfl⟩ := normal_named_eq_ok distinct normal
      have fields_eq := map_eq_map_of_forall₂ (f := id)
        (g := fun member : String × Datum => (member.1, member.2.value)) related
        fun field held member same => Prod.ext same.1 (each field held same.2)
      rw [Datum.value, Datum.valueMembers_eq_map, ← fields_eq, List.map_id]

theorem Tree.sameTree_value (tree : v.Tree) (normal : v.normal = .ok d)
    (same : Datum.Same true d e) : v.SameTree e.value := by
  induction tree generalizing d e with
  | null => cases normal; cases same; exact .null
  | flag b => cases normal; cases same; exact .flag b
  | int n => cases normal; cases same; exact .int n
  | text s => cases normal; cases same; exact .text s
  | @list items _ each =>
      obtain ⟨ds, related, rfl⟩ := normal_list_eq_ok_iff.mp normal
      cases same with
      | @list _ others same =>
          rw [Datum.value, Datum.valueItems_eq_map]
          refine .list (List.forall₂_map_right_iff.mpr ?_)
          exact forall₂_comp related same fun v member d e normal same =>
            each v member normal same
  | @dict fields distinct _ each =>
      obtain ⟨members, named, related, rfl⟩ := normal_named_eq_ok distinct normal
      cases same with
      | @map _ others names values =>
          have same : Datum.Same true (.map members) (.map others) := .map names values
          refine .dict fun name => ?_
          rw [Datum.get?_valueMembers]
          have left := related.get? name
          have right := same.get? named (same.distinct named) name
          generalize held : fields.get? name = held?, members.get? name = member?,
            Table.get? others name = other? at left right ⊢
          cases left with
          | none =>
              cases right
              exact .none
          | some normal =>
              cases right with
              | some same => exact .some (each _ (Table.mem_of_get? held) normal same)

/-- The fragment of a list or of a dictionary tells the tree. -/
theorem sameTree_of_fragment {x y : Value} {text : String} (tree : x.Tree) (tree' : y.Tree)
    (compound : x.Compound) (compound' : y.Compound) (written : x.fragment = .ok text)
    (written' : y.fragment = .ok text) : x.SameTree y := by
  obtain ⟨d, e, normal, normal', same⟩ :=
    same_of_fragment (tree.collects compound) (tree'.collects compound') written written'
  rw [tree'.eq_value normal']
  exact tree.sameTree_value normal same

/-- An empty text and null stand in a list, and a quote in a name. -/
theorem sameTree_of_fragment_quoted :
    let marks : Value := .list [.text "", .null]
    let quoted : Value := .dict false [(.text "\"", .flag true)]
    let x : Value := .dict false [(.text "b", marks), (.text "a", quoted)]
    let y : Value := .dict false [(.text "a", quoted), (.text "b", marks)]
    let text := "\x7b\"a\":\x7b\"\\\"\":true\x7d,\"b\":[\"\",null]\x7d"
    x.Tree ∧ y.Tree ∧ x.Compound ∧ y.Compound ∧ x.fragment = .ok text ∧
      y.fragment = .ok text ∧ x.SameTree y := by
  intro marks quoted x y text
  have list : marks.Tree := .list (by simp [Tree.text, Tree.null])
  have inner : quoted.Tree :=
    @Tree.dict [("\"", .flag true)] (by decide) (by simp [Tree.flag])
  have tree : x.Tree :=
    @Tree.dict [("b", marks), ("a", quoted)] (by decide) (by simp [list, inner])
  have tree' : y.Tree :=
    @Tree.dict [("a", quoted), ("b", marks)] (by decide) (by simp [list, inner])
  have written : x.fragment = .ok text := by cbv
  have written' : y.fragment = .ok text := by cbv
  exact ⟨tree, tree', trivial, trivial, written, written',
    sameTree_of_fragment tree tree' trivial trivial written written'⟩

end Value

end CachePolicy
