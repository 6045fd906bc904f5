import CachePolicy.Proofs.Datum.Tokens

/-!
# Data read back from its text

Two trees of data have the same text only if they are the same, but for the order of
members where the style sorts them and for binary numbers with one text.  A value ends
at the first mark behind it, so a list or a map is taken apart at its separators.  This
holds for every style with commas between the items, so trees that one such style
cannot tell apart are not told apart by another one.
-/

namespace CachePolicy

namespace Datum

/-! ## The same data -/

/-- The same trees, but for the order of members if they are `sorted` when they are printed. -/
inductive Same (sorted : Bool) : Datum → Datum → Prop
  | null : Same sorted .null .null
  | flag (b : Bool) : Same sorted (.flag b) (.flag b)
  | int (n : Int) : Same sorted (.int n) (.int n)
  | float {x y : Binary64} (shown : floatText x = floatText y) : Same sorted (.float x) (.float y)
  | text (s : String) : Same sorted (.text s) (.text s)
  | list {items others : List Datum} (each : List.Forall₂ (Same sorted) items others) :
      Same sorted (.list items) (.list others)
  | map {members others : List (String × Datum)}
      (names : (laid sorted members).map Prod.fst = (laid sorted others).map Prod.fst)
      (values : List.Forall₂ (Same sorted) ((laid sorted members).map Prod.snd)
        ((laid sorted others).map Prod.snd)) :
      Same sorted (.map members) (.map others)

theorem mem_of_mem_laid {sorted : Bool} {members : List (String × Datum)} {d : Datum}
    (held : d ∈ (laid sorted members).map Prod.snd) : ∃ member ∈ members, member.2 = d :=
  List.mem_map.mp (((laid_perm sorted members).map Prod.snd).mem_iff.mp held)

@[refl] theorem Same.refl {sorted : Bool} (d : Datum) : Same sorted d d := by
  induction d with
  | null => exact .null
  | flag b => exact .flag b
  | int n => exact .int n
  | float x => exact .float rfl
  | text s => exact .text s
  | list items each => exact .list (List.forall₂_same.mpr each)
  | map members each =>
      refine .map rfl (List.forall₂_same.mpr fun d held => ?_)
      obtain ⟨member, listed, rfl⟩ := mem_of_mem_laid held
      exact each member listed

theorem Same.written {style : Style} {d e : Datum} (same : Same style.sorted d e) :
    d.written style = e.written style := by
  induction d generalizing e with
  | null => cases same; rfl
  | flag b => cases same; rfl
  | int n => cases same; rfl
  | text s => cases same; rfl
  | float x =>
      cases same with
      | float shown => rw [Datum.written, Datum.written, shown]
  | list items each =>
      cases same with
      | list related =>
          rw [written_list, written_list,
            map_eq_map_of_forall₂ related fun d member e same => each d member same]
  | map members each =>
      cases same with
      | map names values =>
          have alike := Table.Alike.of_parts names values
          rw [written_map, written_map,
            map_eq_map_of_forall₂ alike fun member held other same => ?_]
          have listed := (laid_perm _ _).mem_iff.mp held
          rw [writtenMember, writtenMember, same.1, each member listed same.2]

/-! ## Words -/

/-- What may follow a value: nothing, a separator or a closing bracket. -/
def Ends (rest : List Char) : Prop := ∀ c, rest.head? = some c → c ∈ [',', ']', '\x7d']

def marks : List Char := [',', ']', '\x7d', '[', '\x7b', '"']

structure IsWord (cs : List Char) : Prop where
  started : cs ≠ []
  unmarked : ∀ c ∈ cs, c ∉ marks

/-- The text of data that is written without any mark. -/
def word? : Datum → Option (List Char)
  | null => some "null".toList
  | flag b => some (if b then "true".toList else "false".toList)
  | int n => some (integerText n).toList
  | float x => some (floatText x).toList
  | _ => none

theorem written_of_word? (style : Style) {d : Datum} {cs : List Char}
    (word : d.word? = some cs) : d.written style = cs := by
  cases d <;> cases word <;> rfl

theorem IsNumberChar.not_mem_marks {c : Char} (number : IsNumberChar c) : c ∉ marks := by
  intro mark
  rcases number with digit | letter
  · have each : ∀ c ∈ marks, ¬ c.isDigit = true := List.all_iff_forall_prop.mp (by decide)
    exact each c mark digit
  · have each : ∀ c ∈ marks, c ∉ numberLetters := List.all_iff_forall_prop.mp (by decide)
    exact each c mark letter

theorem isWord_of_word? {d : Datum} {cs : List Char} (word : d.word? = some cs) : IsWord cs := by
  cases d with
  | null => cases word; exact ⟨by decide, List.all_iff_forall_prop.mp (by decide)⟩
  | flag b =>
      cases b <;> cases word <;> exact ⟨by decide, List.all_iff_forall_prop.mp (by decide)⟩
  | int n =>
      cases word
      refine ⟨integerText_ne_nil n, fun c member => ?_⟩
      have number : IsNumberChar c := (mem_integerText member).imp_right (by rintro rfl; decide)
      exact number.not_mem_marks
  | float x =>
      cases word
      obtain ⟨⟨c, -, member⟩, each⟩ := binaryNumeral_floatText x
      exact ⟨List.ne_nil_of_mem member, fun c member => (each c member).not_mem_marks⟩
  | text s => cases word
  | list items => cases word
  | map members => cases word

theorem integerText_chars (n : Int) : ∀ c ∈ (integerText n).toList, IsNumberChar c :=
  fun _ member => (mem_integerText member).imp_right (by rintro rfl; decide)

theorem int_ne_float (n : Int) (x : Binary64) :
    (integerText n).toList ≠ (floatText x).toList := by
  intro same
  obtain ⟨⟨c, listed, member⟩, -⟩ := binaryNumeral_floatText x
  have apart : ∀ c ∈ ['.', 'e', 'N', 'I'], ¬ (c.isDigit = true ∨ c = '-') :=
    List.all_iff_forall_prop.mp (by decide)
  rw [← same] at member
  exact apart c listed (mem_integerText member)

def named : List (Datum × List Char) :=
  [(null, "null".toList), (flag true, "true".toList), (flag false, "false".toList)]

theorem eq_of_named {d e : Datum} {cs : List Char} (left : (d, cs) ∈ named)
    (right : (e, cs) ∈ named) : d = e := by
  have distinct : (named.map Prod.snd).Nodup := by decide
  exact congrArg Prod.fst (List.inj_on_of_nodup_map distinct left right rfl)

/-- Every name has a letter that no number has. -/
theorem not_number_of_named {d : Datum} {cs : List Char} (name : (d, cs) ∈ named) :
    ¬ ∀ c ∈ cs, IsNumberChar c := by
  have letters : ∀ cs ∈ named.map Prod.snd, 'u' ∈ cs ∨ 'l' ∈ cs := by decide
  intro each
  rcases letters cs (List.mem_map.mpr ⟨_, name, rfl⟩) with member | member
  · exact absurd (each _ member) (by unfold IsNumberChar; decide)
  · exact absurd (each _ member) (by unfold IsNumberChar; decide)

theorem word?_cases {d : Datum} {cs : List Char} (word : d.word? = some cs) :
    (d, cs) ∈ named ∨ (∃ n, d = .int n ∧ cs = (integerText n).toList) ∨
      ∃ x, d = .float x ∧ cs = (floatText x).toList := by
  cases d with
  | null => cases word; exact .inl (by simp [named])
  | flag b => cases b <;> cases word <;> exact .inl (by simp [named])
  | int n => cases word; exact .inr (.inl ⟨n, rfl, rfl⟩)
  | float x => cases word; exact .inr (.inr ⟨x, rfl, rfl⟩)
  | text s => cases word
  | list items => cases word
  | map members => cases word

theorem same_of_word? {sorted : Bool} {d e : Datum} {cs : List Char} (left : d.word? = some cs)
    (right : e.word? = some cs) : Same sorted d e := by
  rcases word?_cases left with name | ⟨n, rfl, rfl⟩ | ⟨x, rfl, rfl⟩
  · rcases word?_cases right with name' | ⟨n, rfl, rfl⟩ | ⟨x, rfl, rfl⟩
    · obtain rfl := eq_of_named name name'
      exact .refl d
    · exact absurd (integerText_chars n) (not_number_of_named name)
    · exact absurd (binaryNumeral_floatText x).2 (not_number_of_named name)
  · rcases word?_cases right with name | ⟨m, rfl, same⟩ | ⟨x, rfl, same⟩
    · exact absurd (integerText_chars n) (not_number_of_named name)
    · obtain rfl := integerText_injective (String.toList_injective same)
      exact .int n
    · exact absurd same (int_ne_float n x)
  · rcases word?_cases right with name | ⟨n, rfl, same⟩ | ⟨y, rfl, same⟩
    · exact absurd (binaryNumeral_floatText x).2 (not_number_of_named name)
    · exact absurd same.symm (int_ne_float n x)
    · exact .float (String.toList_injective same)

theorem IsWord.append_inj {cs ds rest others : List Char} (left : IsWord cs) (right : IsWord ds)
    (ends : Ends rest) (ends' : Ends others) (same : cs ++ rest = ds ++ others) :
    cs = ds ∧ rest = others := by
  have stops : ∀ {cs extra rest tail : List Char}, IsWord (cs ++ extra) → Ends rest →
      rest = extra ++ tail → extra = [] := by
    intro cs extra rest tail word ends same
    cases extra with
    | nil => rfl
    | cons c extra =>
        have mark : c ∈ [',', ']', '\x7d'] := ends c (by rw [same]; rfl)
        have marked : c ∈ marks := by
          have each : ∀ c ∈ [',', ']', '\x7d'], c ∈ marks :=
            List.all_iff_forall_prop.mp (by decide)
          exact each c mark
        exact absurd marked
          (word.unmarked c (List.mem_append_right _ List.mem_cons_self))
  rcases List.append_eq_append_iff.mp same with ⟨extra, rfl, behind⟩ | ⟨extra, rfl, behind⟩
  · obtain rfl := stops right ends behind
    exact ⟨(List.append_nil cs).symm, behind⟩
  · obtain rfl := stops left ends' behind
    exact ⟨List.append_nil ds, behind.symm⟩

/-! ## Trees -/

section Trees

variable {style : Style}

/-- The mark that data begins with, if it is no word. -/
def opening? : Datum → Option Char
  | text _ => some '"'
  | list _ => some '['
  | map _ => some '\x7b'
  | _ => none

theorem opening?_ne_some_of_word? {d : Datum} {cs : List Char} (word : d.word? = some cs)
    (c : Char) : d.opening? ≠ some c := by
  cases d with
  | text s => cases word
  | list items => cases word
  | map members => cases word
  | _ => exact nofun

theorem opening?_of_head? {d : Datum} {rest : List Char} {c : Char} (mark : c ∈ marks)
    (starts : (d.written style ++ rest).head? = some c) : d.opening? = some c := by
  cases word : d.word? with
  | some cs =>
      obtain ⟨started, unmarked⟩ := isWord_of_word? word
      rw [written_of_word? style word, List.head?_append_of_ne_nil _ started] at starts
      exact absurd mark (unmarked c (List.mem_of_head? starts))
  | none =>
      cases d with
      | text s => exact starts
      | list items => exact starts
      | map members => exact starts
      | _ => cases word

theorem head?_written (d : Datum) (rest : List Char) {c : Char} (closing : c ∈ [']', '\x7d']) :
    (d.written style ++ rest).head? ≠ some c := by
  intro starts
  have mark : ∀ c ∈ [']', '\x7d'], c ∈ marks := List.all_iff_forall_prop.mp (by decide)
  have opened := opening?_of_head? (mark c closing) starts
  cases d with
  | text s => cases opened; exact absurd closing (by decide)
  | list items => cases opened; exact absurd closing (by decide)
  | map members => cases opened; exact absurd closing (by decide)
  | _ => cases opened

theorem starts_of_not_word (style : Style) {d : Datum} (mark : d.word? = none) (rest : List Char) :
    ∃ c ∈ marks, (d.written style ++ rest).head? = some c := by
  cases d with
  | text s => exact ⟨'"', by decide, rfl⟩
  | list items => exact ⟨'[', by decide, rfl⟩
  | map members => exact ⟨'\x7b', by decide, rfl⟩
  | _ => cases mark

theorem readable_word {d : Datum} {cs : List Char} (word : d.word? = some cs) :
    Readable Ends (Same style.sorted) (written style) d := by
  intro e rest others ends ends' same
  have left := isWord_of_word? word
  rw [written_of_word? style word] at same
  cases word' : e.word? with
  | some ds =>
      rw [written_of_word? style word'] at same
      obtain ⟨rfl, behind⟩ := left.append_inj (isWord_of_word? word') ends ends' same
      exact ⟨same_of_word? word word', behind⟩
  | none =>
      obtain ⟨c, mark, starts⟩ := starts_of_not_word style word' others
      rw [← same, ← written_of_word? style word] at starts
      exact absurd (opening?_of_head? mark starts) (opening?_ne_some_of_word? word c)

theorem joinedChars_cons (separator part : List Char) (parts : List (List Char)) :
    joinedChars separator (part :: parts) = part ++ parts.flatMap (separator ++ ·) := by
  induction parts generalizing part with
  | nil => simp [joinedChars]
  | cons other parts ih => simp [joinedChars, ih]

/-- Items behind commas are read one after the other, up to the closing bracket. -/
theorem readable_joined {α : Type} {R : α → α → Prop} {f : α → List Char} {closing : Char}
    {separator : List Char} {items : List α} (separated : separator.head? = some ',')
    (closes : closing ∈ [']', '\x7d']) (each : ∀ a ∈ items, Readable Ends R f a)
    (starts : ∀ a rest, (f a ++ rest).head? ≠ some closing) :
    Readable (fun _ => True) (List.Forall₂ R)
      (fun items => joinedChars separator (items.map f) ++ [closing]) items := by
  have comma : ∀ a rest, ((separator ++ f a) ++ rest).head? = some ',' := by
    intro a rest
    obtain ⟨more, rfl⟩ := List.head?_eq_some_iff.mp separated
    rfl
  have behind : ∀ a ∈ items, Readable Ends R (fun a => separator ++ f a) a := by
    intro a member b rest others ends ends' same
    simp only [List.append_assoc] at same
    exact each a member b rest others ends ends' (List.append_cancel_left same)
  have going : ∀ a rest, Ends ((separator ++ f a) ++ rest) := by
    intro a rest c first
    rw [comma] at first
    cases first
    decide
  have closed : ∀ rest, Ends (closing :: rest) := by
    rintro rest c ⟨⟩
    exact List.mem_cons_of_mem _ closes
  have apart : ∀ a rest, ((separator ++ f a) ++ rest).head? ≠ some closing := by
    intro a rest
    rw [comma]
    rintro ⟨⟩
    exact absurd closes (by decide)
  intro others rest rest' _ _ same
  cases items with
  | nil =>
      cases others with
      | nil =>
          cases same
          exact ⟨.nil, rfl⟩
      | cons b others =>
          simp only [List.map_cons, joinedChars_cons, List.append_assoc] at same
          exact absurd (congrArg List.head? same).symm (starts b _)
  | cons a items =>
      cases others with
      | nil =>
          simp only [List.map_cons, joinedChars_cons, List.append_assoc] at same
          exact absurd (congrArg List.head? same) (starts a _)
      | cons b others =>
          simp only [List.map_cons, joinedChars_cons, List.flatMap_map, List.append_assoc] at same
          obtain ⟨first, tails⟩ := each a List.mem_cons_self b _ _
            (Readable.follows_flatMap going closed items rest)
            (Readable.follows_flatMap going closed others rest') same
          obtain ⟨more, ends⟩ := Readable.flatMap_closed
            (fun a member => behind a (List.mem_cons_of_mem _ member)) apart going closed others
            rest rest' trivial trivial (by simpa using tails)
          exact ⟨.cons first more, ends⟩

theorem readable_writtenMember {member : String × Datum}
    (value : Readable Ends (Same style.sorted) (written style) member.2) :
    Readable Ends (fun a b => a.1 = b.1 ∧ Same style.sorted a.2 b.2) (writtenMember style)
      member := by
  intro other rest others ends ends' same
  simp only [writtenMember, memberChars, List.append_assoc] at same
  obtain ⟨name, behind⟩ := readable_textChars style.ascii member.1 other.1 _ _ trivial trivial same
  obtain ⟨same, tails⟩ :=
    value other.2 rest others ends ends' (List.append_cancel_left behind)
  exact ⟨⟨name, same⟩, tails⟩

theorem readable_written (separated : style.itemSeparator.head? = some ',') (d : Datum) :
    Readable Ends (Same style.sorted) (written style) d := by
  induction d with
  | null => exact readable_word rfl
  | flag b => exact readable_word rfl
  | int n => exact readable_word rfl
  | float x => exact readable_word rfl
  | text s =>
      intro e rest others _ _ same
      have opened := opening?_of_head? (by decide) (congrArg List.head? same).symm
      cases e with
      | text t =>
          obtain ⟨rfl, behind⟩ := readable_textChars _ s t rest others trivial trivial same
          exact ⟨.text s, behind⟩
      | _ => cases opened
  | list items each =>
      intro e rest others _ _ same
      have opened := opening?_of_head? (by decide) (congrArg List.head? same).symm
      cases e with
      | list items' =>
          rw [written_list, written_list] at same
          obtain ⟨related, behind⟩ := readable_joined separated (by decide) each
            (fun d rest => head?_written d rest (by decide)) items' rest others trivial trivial
            (List.tail_eq_of_cons_eq same)
          exact ⟨.list related, behind⟩
      | _ => cases opened
  | map members each =>
      intro e rest others _ _ same
      have opened := opening?_of_head? (by decide) (congrArg List.head? same).symm
      cases e with
      | map members' =>
          rw [written_map, written_map] at same
          have laidEach : ∀ member ∈ laid style.sorted members, Readable Ends
              (fun a b => a.1 = b.1 ∧ Same style.sorted a.2 b.2) (writtenMember style) member :=
            fun member held =>
              readable_writtenMember (each member ((laid_perm _ _).mem_iff.mp held))
          have quoted : ∀ (member : String × Datum) rest,
              (writtenMember style member ++ rest).head? ≠ some '\x7d' := by
            simp [writtenMember, memberChars, textChars]
          obtain ⟨related, behind⟩ := readable_joined separated (by decide) laidEach quoted
            (laid style.sorted members') rest others trivial trivial (List.tail_eq_of_cons_eq same)
          have alike : Table.Alike (Same style.sorted) (laid style.sorted members)
            (laid style.sorted members') := related
          exact ⟨.map alike.keys alike.values, behind⟩
      | _ => cases opened

/-- The text of data tells it, in every style that separates items by commas. -/
theorem same_iff_written (style : Style) (separated : style.itemSeparator.head? = some ',')
    {d e : Datum} :
    Same style.sorted d e ↔ d.written style = e.written style := by
  have nothing : Ends [] := nofun
  constructor
  · exact Same.written
  · intro same
    exact (readable_written separated d e [] [] nothing nothing (by rw [same])).1

end Trees

end Datum

end CachePolicy
