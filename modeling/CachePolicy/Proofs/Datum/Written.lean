import CachePolicy.Proofs.Datum.Order
import CachePolicy.Proofs.Results

/-!
# What plain data is written as

Printing fails for data that holds an integer with too many digits, and for no other.
The text of all other data is that of a total function, in which the members of a map
are first laid out in the order they are printed in.
-/

namespace CachePolicy

namespace Datum

/-- Induction on data in which every item and every member is data of the same kind. -/
@[elab_as_elim, induction_eliminator]
theorem induct {motive : Datum → Prop} (null : motive .null) (flag : ∀ b, motive (.flag b))
    (int : ∀ n, motive (.int n)) (float : ∀ x, motive (.float x)) (text : ∀ s, motive (.text s))
    (list : ∀ items, (∀ d ∈ items, motive d) → motive (.list items))
    (map : ∀ members, (∀ member ∈ members, motive member.2) → motive (.map members))
    (d : Datum) : motive d :=
  @Datum.rec motive (fun items => ∀ d ∈ items, motive d)
    (fun members => ∀ member ∈ members, motive member.2) (fun member => motive member.2)
    null flag int float text list map
    nofun (fun _ _ first rest => List.forall_mem_cons.mpr ⟨first, rest⟩)
    nofun (fun _ _ first rest => List.forall_mem_cons.mpr ⟨first, rest⟩)
    (fun _ _ value => value) d

/-! ## Data with long integers -/

inductive Overlong : Datum → Prop
  | int {n : Int} (long : integerTextLimit ≤ n.natAbs) : Overlong (.int n)
  | item {items : List Datum} {d : Datum} (member : d ∈ items) (long : d.Overlong) :
      Overlong (.list items)
  | named {members : List (String × Datum)} {name : String} {d : Datum}
      (member : (name, d) ∈ members) (long : d.Overlong) : Overlong (.map members)

theorem overlong_int_iff {n : Int} : (int n).Overlong ↔ integerTextLimit ≤ n.natAbs :=
  ⟨fun | .int long => long, .int⟩

theorem overlong_list_iff {items : List Datum} :
    (list items).Overlong ↔ ∃ d ∈ items, d.Overlong :=
  ⟨fun | .item member long => ⟨_, member, long⟩, fun ⟨_, member, long⟩ => .item member long⟩

theorem overlong_map_iff {members : List (String × Datum)} :
    (map members).Overlong ↔ ∃ member ∈ members, member.2.Overlong :=
  ⟨fun | .named member long => ⟨_, member, long⟩, fun ⟨_, member, long⟩ => .named member long⟩

theorem limitedIntegerText_fails_iff {n : Int} :
    Fails (limitedIntegerText n) ↔ integerTextLimit ≤ n.natAbs := by
  unfold limitedIntegerText
  split <;> simp_all

/-! ## Parts in their sequence -/

theorem itemChars_eq_mapM (style : Style) (items : List Datum) :
    itemChars style items = items.mapM (chars style) := by
  induction items with
  | nil => rfl
  | cons d rest ih => rw [itemChars, List.mapM_cons, ih]

theorem namedChars_eq_mapM (style : Style) (members : List (String × Datum)) :
    namedChars style members =
      members.mapM fun member => do return (member.1, ← member.2.chars style) := by
  induction members with
  | nil => rfl
  | cons member rest ih =>
      rw [namedChars, List.mapM_cons, ih]
      simp

theorem chars_fails_iff (style : Style) (d : Datum) : Fails (d.chars style) ↔ d.Overlong := by
  induction d with
  | null => exact iff_of_false (Fails.not_ok _) nofun
  | flag b => exact iff_of_false (Fails.not_ok _) nofun
  | float x => exact iff_of_false (Fails.not_ok _) nofun
  | text s => exact iff_of_false (Fails.not_ok _) nofun
  | int n =>
      rw [overlong_int_iff, ← limitedIntegerText_fails_iff]
      exact Fails.map_iff _
  | list items each =>
      rw [overlong_list_iff, chars, Fails.map_iff, itemChars_eq_mapM, Fails.mapM_iff]
      exact exists_congr fun d => and_congr_right (each d)
  | map members each =>
      rw [overlong_map_iff, chars, Fails.map_iff, namedChars_eq_mapM, Fails.mapM_iff]
      refine exists_congr fun member => and_congr_right fun held => ?_
      rw [Fails.map_iff, each member held]

theorem print_fails_iff (style : Style) (d : Datum) : Fails (d.print style) ↔ d.Overlong := by
  rw [← chars_fails_iff style d]
  exact Fails.map_iff _

/-! ## The text -/

mutual

def written (style : Style) : Datum → List Char
  | null => "null".toList
  | flag b => if b then "true".toList else "false".toList
  | int n => (integerText n).toList
  | float x => (floatText x).toList
  | text s => textChars style.ascii s
  | list items => '[' :: joinedChars style.itemSeparator (writtenItems style items) ++ [']']
  | map members =>
      '\x7b' :: joinedChars style.itemSeparator
        ((laid style.sorted (writtenMembers style members)).map (memberChars style)) ++ ['\x7d']

def writtenItems (style : Style) : List Datum → List (List Char)
  | [] => []
  | d :: rest => d.written style :: writtenItems style rest

def writtenMembers (style : Style) : List (String × Datum) → List (String × List Char)
  | [] => []
  | (name, d) :: rest => (name, d.written style) :: writtenMembers style rest

end

theorem writtenItems_eq_map (style : Style) (items : List Datum) :
    writtenItems style items = items.map (written style) := by
  induction items with
  | nil => rfl
  | cons d rest ih => rw [writtenItems, ih, List.map_cons]

theorem writtenMembers_eq_map (style : Style) (members : List (String × Datum)) :
    writtenMembers style members =
      members.map fun member => (member.1, member.2.written style) := by
  induction members with
  | nil => rfl
  | cons member rest ih => rw [writtenMembers, ih, List.map_cons]

def writtenMember (style : Style) (member : String × Datum) : List Char :=
  memberChars style (member.1, member.2.written style)

theorem written_list (style : Style) (items : List Datum) :
    (list items).written style =
      '[' :: joinedChars style.itemSeparator (items.map (written style)) ++ [']'] := by
  rw [written, writtenItems_eq_map]

theorem written_map (style : Style) (members : List (String × Datum)) :
    (map members).written style = '\x7b' :: joinedChars style.itemSeparator
      ((laid style.sorted members).map (writtenMember style)) ++ ['\x7d'] := by
  rw [written, writtenMembers_eq_map, laid_map, List.map_map]
  rfl

theorem eq_written_of_chars {style : Style} {d : Datum} {cs : List Char}
    (printed : d.chars style = .ok cs) : cs = d.written style := by
  induction d generalizing cs with
  | null => cases printed; rfl
  | flag b => cases printed; rfl
  | float x => cases printed; rfl
  | text s => cases printed; rfl
  | int n =>
      rw [chars, limitedIntegerText] at printed
      split at printed
      · cases printed
      · cases printed
        rfl
  | list items each =>
      rw [chars, itemChars_eq_mapM] at printed
      obtain ⟨parts, gathered, same⟩ := bind_eq_ok_iff.mp printed
      cases same
      rw [written_list, eq_map_of_mapM gathered fun d member cs printed => each d member printed]
  | map members each =>
      rw [chars, namedChars_eq_mapM] at printed
      obtain ⟨parts, gathered, same⟩ := bind_eq_ok_iff.mp printed
      cases same
      have named := eq_map_of_mapM (g := fun member => (member.1, member.2.written style))
        gathered fun member held part printed => by
          obtain ⟨cs, value, same⟩ := bind_eq_ok_iff.mp printed
          cases same
          rw [each member held value]
      rw [written, writtenMembers_eq_map, ← named]
      rfl

theorem chars_eq_ok_iff {style : Style} {d : Datum} {cs : List Char} :
    d.chars style = .ok cs ↔ ¬ d.Overlong ∧ cs = d.written style := by
  rw [← chars_fails_iff style d]
  constructor
  · intro printed
    exact ⟨Fails.not_iff_ok.mpr ⟨cs, printed⟩, eq_written_of_chars printed⟩
  · rintro ⟨short, rfl⟩
    obtain ⟨cs, printed⟩ := Fails.not_iff_ok.mp short
    rw [printed, eq_written_of_chars printed]

/-! ## Maps of given members -/

theorem put_eq (members : Table String Datum) (name : String) (d : Datum) :
    put members name d = Table.put members name d := by
  induction members with
  | nil => rfl
  | cons member rest ih =>
      rw [put, Table.put, ih]
      split
      · rename_i same
        rw [same]
      · rfl

theorem ofMembers_eq_ofEntries (members : Table String Datum) :
    ofMembers members = map (Table.ofEntries members) := by
  simp only [ofMembers, Table.ofEntries, put_eq]

theorem ofMembers_of_distinct {members : Table String Datum} (distinct : members.Distinct) :
    ofMembers members = map members := by
  rw [ofMembers_eq_ofEntries, Table.ofEntries_of_distinct distinct]

end Datum

end CachePolicy
