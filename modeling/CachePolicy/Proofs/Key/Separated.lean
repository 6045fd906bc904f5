import CachePolicy.Proofs.Key.Reading
import CachePolicy.Proofs.Key.Rendering

/-!
# Separated templates

Fragments stand in a key with nothing around them, so its text need not tell where one of
them ends.  It does where no two placeholders are adjacent and no fragment holds the
character that the literal behind it begins with.  The segments are then read one after
the other: a fragment is what stands in front of the first such character.
-/

namespace CachePolicy

/-- What stands in front of the first such element, and what stands behind it. -/
theorem append_cons_inj {α : Type} {front front' behind behind' : List α} {a : α}
    (absent : a ∉ front) (absent' : a ∉ front')
    (same : front ++ a :: behind = front' ++ a :: behind') :
    front = front' ∧ behind = behind' := by
  induction front generalizing front' with
  | nil =>
      cases front' with
      | nil => exact ⟨rfl, (List.cons.inj same).2⟩
      | cons b front' => exact absurd (List.cons.inj same).1 (List.ne_of_not_mem_cons absent')
  | cons b front ih =>
      cases front' with
      | nil => exact absurd (List.cons.inj same).1.symm (List.ne_of_not_mem_cons absent)
      | cons c front' =>
          obtain ⟨rfl, rest⟩ := List.cons.inj same
          obtain ⟨rfl, behind⟩ := ih (mt (List.mem_cons_of_mem _) absent)
            (mt (List.mem_cons_of_mem _) absent') rest
          exact ⟨rfl, behind⟩

/-- No two placeholders are adjacent. -/
def Segment.Separated (segments : List Segment) : Prop :=
  segments.IsChain fun a b => a.name? = none ∨ b.name? = none

namespace CompiledKey

/-- The fragment of a placeholder with a literal behind it does not hold the character that the
literal begins with. -/
def Clear (bindings : Bindings) (segments : List Segment) : Prop :=
  ∀ name text, [.placeholder name, .literal text] <:+: segments →
    ∀ v fragment, bindings.get? name = some v → v.fragment = .ok fragment →
      ∀ c, text.toList.head? = some c → c ∉ fragment.toList

variable {bindings others : Bindings} {segment : Segment} {segments : List Segment}
  {texts texts' : List String}

theorem segmentText_placeholder_eq_ok_iff {name fragment : String} :
    segmentText bindings (.placeholder name) = .ok fragment ↔
      ∃ v, bindings.get? name = some v ∧ v.fragment = .ok fragment := by
  rw [segmentText]
  cases bindings.get? name with
  | none => simp
  | some v => simp

theorem Clear.tail (clear : Clear bindings (segment :: segments)) : Clear bindings segments :=
  fun name text placed =>
    clear name text (List.infix_cons_iff.mpr (.inr placed))

theorem Clear.not_mem {name text fragment : String} {c : Char} {cs : List Char}
    (clear : Clear bindings (.placeholder name :: .literal text :: segments))
    (begins : text.toList = c :: cs)
    (written : segmentText bindings (.placeholder name) = .ok fragment) :
    c ∉ fragment.toList := by
  obtain ⟨v, bound, printed⟩ := segmentText_placeholder_eq_ok_iff.mp written
  have placed : [.placeholder name, .literal text] <:+:
      Segment.placeholder name :: .literal text :: segments :=
    List.IsPrefix.isInfix ⟨segments, rfl⟩
  exact clear name text placed v fragment bound printed c (by rw [begins]; rfl)

/-- Where the keys have one text, the texts of the first segments are the same, and so are those
of the segments behind them. -/
theorem first_text_eq (filled : .literal "" ∉ segment :: segments)
    (separated : Segment.Separated (segment :: segments))
    (clear : Clear bindings (segment :: segments)) (clear' : Clear others (segment :: segments))
    {text text' : String} (first : segmentText bindings segment = .ok text)
    (first' : segmentText others segment = .ok text')
    (rest : List.Forall₂ (fun segment text => segmentText bindings segment = .ok text) segments
      texts)
    (rest' : List.Forall₂ (fun segment text => segmentText others segment = .ok text) segments
      texts')
    (same : text.toList ++ texts.flatMap String.toList =
      text'.toList ++ texts'.flatMap String.toList) :
    text = text' ∧ texts.flatMap String.toList = texts'.flatMap String.toList := by
  cases segment with
  | literal words =>
      cases first
      cases first'
      exact ⟨rfl, List.append_cancel_left same⟩
  | placeholder name =>
      cases rest with
      | nil =>
          cases rest'
          exact ⟨String.toList_injective (by simpa using same), rfl⟩
      | @cons next words segments texts second rest =>
          cases rest' with
          | @cons _ words' _ texts' second' rest' =>
          cases next with
          | placeholder other => simp [Segment.Separated, Segment.name?] at separated
          | literal separator =>
              obtain rfl : separator = words := Except.ok.inj second
              obtain rfl : separator = words' := Except.ok.inj second'
              have begins : separator.toList ≠ [] := by
                intro empty
                rw [String.toList_eq_nil_iff] at empty
                simp [empty] at filled
              obtain ⟨c, cs, begins⟩ := List.exists_cons_of_ne_nil begins
              rw [List.flatMap_cons, List.flatMap_cons, begins, List.cons_append,
                List.cons_append] at same
              obtain ⟨fragment, behind⟩ := append_cons_inj (clear.not_mem begins first)
                (clear'.not_mem begins first') same
              refine ⟨String.toList_injective fragment, ?_⟩
              rw [List.flatMap_cons, List.flatMap_cons, begins, List.cons_append,
                List.cons_append, behind]

/-- Where the keys have one text, every segment has the same text under both bindings. -/
theorem segments_agree (filled : .literal "" ∉ segments) (separated : Segment.Separated segments)
    (clear : Clear bindings segments) (clear' : Clear others segments)
    (made : List.Forall₂ (fun segment text => segmentText bindings segment = .ok text) segments
      texts)
    (made' : List.Forall₂ (fun segment text => segmentText others segment = .ok text) segments
      texts')
    (same : texts.flatMap String.toList = texts'.flatMap String.toList) :
    ∀ segment ∈ segments, ∃ text, segmentText bindings segment = .ok text ∧
      segmentText others segment = .ok text := by
  induction made generalizing texts' with
  | nil => exact nofun
  | cons first rest ih =>
      cases made' with
      | cons first' rest' =>
          obtain ⟨rfl, behind⟩ := first_text_eq filled separated clear clear' first first' rest
            rest' same
          have filled := mt (List.mem_cons_of_mem _) filled
          have agree := ih filled separated.tail clear.tail clear'.tail rest' behind
          exact List.forall_mem_cons.mpr ⟨⟨_, first, first'⟩, agree⟩

theorem mapM_segmentText_congr
    (agree : ∀ segment ∈ segments, segmentText bindings segment = segmentText others segment) :
    segments.mapM (segmentText bindings) = segments.mapM (segmentText others) := by
  induction segments with
  | nil => rfl
  | cons segment segments ih =>
      obtain ⟨first, rest⟩ := List.forall_mem_cons.mp agree
      rw [List.mapM_cons, List.mapM_cons, first, ih rest]

theorem mem_placeholders_iff {key : CompiledKey} {name : String} :
    name ∈ key.placeholders ↔ .placeholder name ∈ key.segments := by
  rw [placeholders, List.mem_filterMap]
  constructor
  · rintro ⟨segment, member, named⟩
    cases segment with
    | literal text => cases named
    | placeholder other => cases named; exact member
  · intro member
    exact ⟨_, member, rfl⟩

/-- Of a separated template the text of a key tells the fragments of all placeholders. -/
theorem separated_text_eq_iff {template : Value} {known : List String} {operation mode : String}
    {key : CompiledKey} (compiled : compile template known operation mode = .ok key)
    (separated : Segment.Separated key.segments) (clear : Clear bindings key.segments)
    (clear' : Clear others key.segments) {text text' : String}
    (rendered : key.render bindings = .ok text) (rendered' : key.render others = .ok text') :
    text = text' ↔ ∀ name ∈ key.placeholders, ∃ v w fragment,
      bindings.get? name = some v ∧ others.get? name = some w ∧
        v.fragment = .ok fragment ∧ w.fragment = .ok fragment := by
  obtain ⟨texts, made, rfl⟩ := map_eq_ok_iff.mp rendered
  obtain ⟨texts', made', rfl⟩ := map_eq_ok_iff.mp rendered'
  constructor
  · intro same name placed
    have filled : .literal "" ∉ key.segments := by
      rw [(segments_eq_parse compiled).2]
      exact (Segment.canonical_parse key.template).filled
    have same : texts.flatMap String.toList = texts'.flatMap String.toList := by
      simpa using congrArg String.toList same
    obtain ⟨fragment, written, written'⟩ := segments_agree filled separated clear clear'
      (mapM_eq_ok_iff.mp made) (mapM_eq_ok_iff.mp made') same _ (mem_placeholders_iff.mp placed)
    obtain ⟨v, bound, printed⟩ := segmentText_placeholder_eq_ok_iff.mp written
    obtain ⟨w, bound', printed'⟩ := segmentText_placeholder_eq_ok_iff.mp written'
    exact ⟨v, w, fragment, bound, bound', printed, printed'⟩
  · intro same
    have agree : ∀ segment ∈ key.segments,
        segmentText bindings segment = segmentText others segment := by
      intro segment member
      cases segment with
      | literal text => rfl
      | placeholder name =>
          obtain ⟨v, w, fragment, bound, bound', printed, printed'⟩ :=
            same name (mem_placeholders_iff.mpr member)
          rw [segmentText_placeholder_eq_ok_iff.mpr ⟨v, bound, printed⟩,
            segmentText_placeholder_eq_ok_iff.mpr ⟨w, bound', printed'⟩]
    have texts_eq := made.symm.trans ((mapM_segmentText_congr agree).trans made')
    rw [Except.ok.inj texts_eq]

/-- The key of a note of a user, who stands in it twice. -/
def noteKey : CompiledKey :=
  ⟨"\x7buser\x7d:\x7btags\x7d-\x7buser\x7d:\x7bnote\x7d",
    [.placeholder "user", .literal ":", .placeholder "tags", .literal "-", .placeholder "user",
      .literal ":", .placeholder "note"]⟩

/-- No user and one without a name have the same fragment, and the note at the end may hold the
marks in front of it. -/
theorem separated_text_eq_iff_empty :
    let bindings : Bindings :=
      [("user", .null), ("tags", .list [.text "x"]), ("note", .text "a:-")]
    let others : Bindings :=
      [("user", .text ""), ("tags", .tuple [.text "x"]), ("note", .text "a:-")]
    let known := ["user", "tags", "note"]
    let text := ":[\"x\"]-:a:-"
    compile (.text noteKey.template) known "app.find/3" "cache" = .ok noteKey ∧
      Segment.Separated noteKey.segments ∧ Clear bindings noteKey.segments ∧
      Clear others noteKey.segments ∧ noteKey.render bindings = .ok text ∧
      noteKey.render others = .ok text ∧
      ∀ name ∈ noteKey.placeholders, ∃ v w fragment, bindings.get? name = some v ∧
        others.get? name = some w ∧ v.fragment = .ok fragment ∧ w.fragment = .ok fragment := by
  intro bindings others known text
  have compiled : compile (.text noteKey.template) known "app.find/3" "cache" = .ok noteKey := rfl
  have separated : Segment.Separated noteKey.segments := by
    simp [Segment.Separated, noteKey, Segment.name?]
  have clear : ∀ bindings : Bindings, segmentText bindings (.placeholder "user") = .ok "" →
      segmentText bindings (.placeholder "tags") = .ok "[\"x\"]" →
        Clear bindings noteKey.segments := by
    intro bindings user tags name text placed v fragment bound written c begins
    have found := segmentText_placeholder_eq_ok_iff.mpr ⟨v, bound, written⟩
    have placed : name = "user" ∧ text = ":" ∨ name = "tags" ∧ text = "-" ∨
        name = "user" ∧ text = ":" := by
      simpa [noteKey, List.infix_cons_iff] using placed
    rcases placed with ⟨rfl, rfl⟩ | ⟨rfl, rfl⟩ | ⟨rfl, rfl⟩
    · cases user.symm.trans found
      exact List.not_mem_nil
    · cases tags.symm.trans found
      cases begins
      decide
    · cases user.symm.trans found
      exact List.not_mem_nil
  have list : segmentText bindings (.placeholder "tags") = .ok "[\"x\"]" := rfl
  have tuple : segmentText others (.placeholder "tags") = .ok "[\"x\"]" := rfl
  have rendered : noteKey.render bindings = .ok text := rfl
  have rendered' : noteKey.render others = .ok text := rfl
  have clear' := clear others rfl tuple
  have clear := clear bindings rfl list
  exact ⟨compiled, separated, clear, clear', rendered, rendered',
    (separated_text_eq_iff compiled separated clear clear' rendered rendered').mp rfl⟩

end CompiledKey

end CachePolicy
