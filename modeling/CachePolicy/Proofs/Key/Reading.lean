import CachePolicy.Key.Template
import Mathlib.Data.List.Chain

/-!
# Canonical readings of templates

A sequence of segments is canonical when its literals are neither empty nor adjacent,
its placeholders have names, and no literal holds a name in braces.  Every template has
exactly one canonical reading that prints as the template, and `parse` finds it: a name
in braces can neither begin in a literal and end behind it nor the other way round,
because a name holds no brace.
-/

namespace CachePolicy

/-! ## Names in braces -/

/-- The way a placeholder with this name is written. -/
def braced (name : List Char) : List Char := '\x7b' :: name ++ ['\x7d']

theorem isNameChar_of_isName {name : List Char} (named : isName name = true) :
    ∀ c ∈ name, isNameChar c = true := by
  cases name with
  | nil => cases named
  | cons c rest =>
      simp only [isName, Bool.and_eq_true, List.all_eq_true] at named
      intro d member
      rcases List.mem_cons.mp member with rfl | member
      · simp [isNameChar, named.1]
      · exact named.2 d member

theorem bracedName?_eq_some_iff {cs name : List Char} :
    bracedName? cs = some name ↔ isName name = true ∧ ∃ rest, cs = name ++ '\x7d' :: rest := by
  constructor
  · intro found
    simp only [bracedName?] at found
    split at found
    · rename_i closes
      obtain ⟨named, closed⟩ := Bool.and_eq_true_iff.mp closes
      cases found
      obtain ⟨rest, behind⟩ := List.head?_eq_some_iff.mp (beq_iff_eq.mp closed)
      exact ⟨named, rest, by rw [← behind, List.takeWhile_append_dropWhile]⟩
    · cases found
  · rintro ⟨named, rest, rfl⟩
    have stops : isNameChar '\x7d' = false := by decide
    have taken : (name ++ '\x7d' :: rest).takeWhile isNameChar = name := by
      rw [List.takeWhile_append_of_pos (isNameChar_of_isName named)]
      simp [stops]
    have left : (name ++ '\x7d' :: rest).dropWhile isNameChar = '\x7d' :: rest := by
      rw [List.dropWhile_append_of_pos (isNameChar_of_isName named)]
      simp [stops]
    simp [bracedName?, taken, left, named]

/-- No placeholder begins in the text when the rest stands behind it. -/
def Unbraced (text rest : List Char) : Prop :=
  ∀ front behind, text = front ++ '\x7b' :: behind → bracedName? (behind ++ rest) = none

namespace Unbraced

theorem nil (rest : List Char) : Unbraced [] rest := by
  intro front behind split
  simp at split

theorem snoc {text rest : List Char} {c : Char} (unbraced : Unbraced text (c :: rest))
    (opens : c = '\x7b' → bracedName? rest = none) : Unbraced (text ++ [c]) rest := by
  intro front behind split
  rcases List.eq_nil_or_concat behind with rfl | ⟨inner, last, rfl⟩
  · obtain ⟨-, same⟩ := List.append_inj' split rfl
    exact opens (List.cons.inj same).1
  · have split : text ++ [c] = (front ++ '\x7b' :: inner) ++ [last] := by simpa using split
    obtain ⟨text_eq, same⟩ := List.append_inj' split rfl
    obtain rfl : c = last := (List.cons.inj same).1
    simpa using unbraced front inner text_eq

theorem tail {text rest : List Char} {c : Char} (unbraced : Unbraced (c :: text) rest) :
    Unbraced text rest :=
  fun front behind split => unbraced (c :: front) behind (by rw [split, List.cons_append])

theorem not_braced {text rest name : List Char} (unbraced : Unbraced text rest)
    (named : isName name = true) : ¬ braced name <:+: text := by
  rintro ⟨front, behind, rfl⟩
  have none := unbraced front (name ++ '\x7d' :: behind) (by simp [braced])
  have found : bracedName? (name ++ '\x7d' :: (behind ++ rest)) = some name :=
    bracedName?_eq_some_iff.mpr ⟨named, _, rfl⟩
  simp [found] at none

/-- What follows a literal is nothing or an open brace, and neither continues a name. -/
theorem of_not_braced {text rest : List Char}
    (plain : ∀ name, isName name = true → ¬ braced name <:+: text)
    (separated : rest = [] ∨ rest.head? = some '\x7b') : Unbraced text rest := by
  rintro front behind rfl
  refine Option.eq_none_iff_forall_ne_some.mpr fun name found => ?_
  obtain ⟨named, left, closes⟩ := bracedName?_eq_some_iff.mp found
  have whole : behind ++ rest = (name ++ ['\x7d']) ++ left := by simpa using closes
  rcases List.append_eq_append_iff.mp whole with ⟨more, inside, rest_eq⟩ | ⟨more, behind_eq, -⟩
  · -- The name ends behind the text, so an open brace stands in it or in place of the closing one.
    rcases more with _ | ⟨c, more⟩
    · rw [List.append_nil] at inside
      exact plain name named ⟨front, [], by simp [braced, ← inside]⟩
    · obtain rfl : c = '\x7b' := by simpa [rest_eq] using separated
      have member : '\x7b' ∈ name ++ ['\x7d'] := by simp [inside]
      rcases List.mem_append.mp member with inName | atEnd
      · exact absurd (isNameChar_of_isName named _ inName) (by decide)
      · exact absurd (List.mem_singleton.mp atEnd) (by decide)
  · exact plain name named ⟨front, more, by simp [braced, behind_eq]⟩

end Unbraced

namespace Segment

/-! ## Canonical sequences -/

structure Canonical (segments : List Segment) : Prop where
  filled : literal "" ∉ segments
  apart : segments.IsChain fun a b => a.name?.isSome ∨ b.name?.isSome
  named : ∀ name, placeholder name ∈ segments → isName name.toList = true
  plain : ∀ text, literal text ∈ segments → ∀ name, isName name = true →
    ¬ braced name <:+: text.toList

theorem chars_placeholder (name : String) : (placeholder name).chars = braced name.toList := rfl

namespace Canonical

variable {segments : List Segment}

theorem nil : Canonical [] := ⟨nofun, .nil, nofun, nofun⟩

theorem tail {segment : Segment} (canonical : Canonical (segment :: segments)) :
    Canonical segments where
  filled member := canonical.filled (List.mem_cons_of_mem _ member)
  apart := canonical.apart.tail
  named name member := canonical.named name (List.mem_cons_of_mem _ member)
  plain text member := canonical.plain text (List.mem_cons_of_mem _ member)

theorem cons_placeholder {name : String} (named : isName name.toList = true)
    (canonical : Canonical segments) : Canonical (placeholder name :: segments) where
  filled := by simpa using canonical.filled
  apart := by
    rw [List.isChain_cons]
    exact ⟨fun _ _ => .inl rfl, canonical.apart⟩
  named other member := by
    rcases List.mem_cons.mp member with same | member
    · cases same
      exact named
    · exact canonical.named other member
  plain text member := by
    rcases List.mem_cons.mp member with same | member
    · cases same
    · exact canonical.plain text member

/-- A literal may stand at the end and in front of a placeholder. -/
theorem cons_literal {text : String} (filled : text ≠ "")
    (plain : ∀ name, isName name = true → ¬ braced name <:+: text.toList)
    (starts : ∀ next ∈ segments.head?, next.name?.isSome) (canonical : Canonical segments) :
    Canonical (literal text :: segments) where
  filled := by
    rintro (_ | _)
    · exact filled rfl
    · exact canonical.filled ‹_›
  apart := by
    rw [List.isChain_cons]
    exact ⟨fun next first => .inr (starts next first), canonical.apart⟩
  named name member := by
    rcases List.mem_cons.mp member with same | member
    · cases same
    · exact canonical.named name member
  plain other member := by
    rcases List.mem_cons.mp member with same | member
    · cases same
      exact plain
    · exact canonical.plain other member

theorem pendingLiteral_append {pending rest : List Char} (unbraced : Unbraced pending.reverse rest)
    (starts : ∀ next ∈ segments.head?, next.name?.isSome) (canonical : Canonical segments) :
    Canonical (pendingLiteral pending ++ segments) := by
  cases pending with
  | nil => exact canonical
  | cons c pending =>
      refine canonical.cons_literal ?_ ?_ starts
      · intro empty
        simpa using congrArg String.toList empty
      · intro name named
        simpa using unbraced.not_braced named

end Canonical

/-! ## What is read is canonical and prints as the template -/

theorem flatMap_chars_pendingLiteral (pending : List Char) :
    (pendingLiteral pending).flatMap chars = pending.reverse := by
  cases pending <;> simp [pendingLiteral, chars]

theorem flatMap_chars_scan (skip : Nat) (pending cs : List Char) :
    (scan skip pending cs).flatMap chars = pending.reverse ++ cs.drop skip := by
  fun_induction scan skip pending cs with
  | case1 skip pending => simp [flatMap_chars_pendingLiteral]
  | case2 skip pending c cs ih => exact ih
  | case3 pending c cs name found ih =>
      split at found
      · rename_i opens
        obtain ⟨-, rest, rfl⟩ := bracedName?_eq_some_iff.mp found
        simp [flatMap_chars_pendingLiteral, chars, ih, opens]
      · cases found
  | case4 pending c cs _ ih => simp [ih]

theorem canonical_scan (skip : Nat) (pending cs : List Char)
    (unbraced : Unbraced pending.reverse (cs.drop skip)) : Canonical (scan skip pending cs) := by
  fun_induction scan skip pending cs with
  | case1 skip pending =>
      simpa using Canonical.nil.pendingLiteral_append unbraced (by simp)
  | case2 skip pending c cs ih => exact ih unbraced
  | case3 pending c cs name found ih =>
      split at found
      · obtain ⟨named, -⟩ := bracedName?_eq_some_iff.mp found
        refine ((ih (.nil _)).cons_placeholder ?_).pendingLiteral_append unbraced (by simp [name?])
        simpa using named
      · cases found
  | case4 pending c cs none ih =>
      refine ih ?_
      rw [List.reverse_cons]
      exact unbraced.snoc fun opens => by simpa [opens] using none

/-! ## A canonical sequence is read back -/

theorem scan_skipped (pending front rest : List Char) :
    scan front.length pending (front ++ rest) = scan 0 pending rest := by
  induction front with
  | nil => rfl
  | cons c front ih => exact ih

theorem scan_unbraced {text rest : List Char} (unbraced : Unbraced text rest)
    (pending : List Char) :
    scan 0 pending (text ++ rest) = scan 0 (text.reverse ++ pending) rest := by
  induction text generalizing pending with
  | nil => rfl
  | cons c text ih =>
      have none : (if c = '\x7b' then bracedName? (text ++ rest) else none) = none := by
        split
        · rename_i opens
          exact unbraced [] text (by rw [opens, List.nil_append])
        · rfl
      rw [List.cons_append, scan, none]
      simpa using ih unbraced.tail (c :: pending)

theorem scan_braced {name : List Char} (named : isName name = true)
    (pending rest : List Char) :
    scan 0 pending (braced name ++ rest) =
      pendingLiteral pending ++ placeholder (String.ofList name) :: scan 0 [] rest := by
  have found : bracedName? (name ++ '\x7d' :: rest) = some name :=
    bracedName?_eq_some_iff.mpr ⟨named, rest, rfl⟩
  have skipped : scan (name.length + 1) [] (name ++ '\x7d' :: rest) = scan 0 [] rest := by
    simpa using scan_skipped [] (name ++ ['\x7d']) rest
  have whole : braced name ++ rest = '\x7b' :: (name ++ '\x7d' :: rest) := by simp [braced]
  rw [whole, scan, if_pos rfl, found]
  simp only [skipped]

/-- The characters read so far become a literal where a placeholder or the end follows. -/
theorem scan_pending {segments : List Segment} (canonical : Canonical segments)
    (starts : ∀ next ∈ segments.head?, next.name?.isSome) (pending : List Char) :
    scan 0 pending (segments.flatMap chars) =
      pendingLiteral pending ++ scan 0 [] (segments.flatMap chars) := by
  cases segments with
  | nil => simp [scan, pendingLiteral]
  | cons segment rest =>
      cases segment with
      | literal text => simp [name?] at starts
      | placeholder name =>
          have named := canonical.named name List.mem_cons_self
          rw [List.flatMap_cons, chars_placeholder, scan_braced named, scan_braced named]
          rfl

theorem head?_flatMap_chars {segments : List Segment}
    (starts : ∀ next ∈ segments.head?, next.name?.isSome) :
    segments.flatMap chars = [] ∨ (segments.flatMap chars).head? = some '\x7b' := by
  cases segments with
  | nil => exact .inl rfl
  | cons segment rest =>
      cases segment with
      | literal text => simp [name?] at starts
      | placeholder name => exact .inr rfl

theorem scan_flatMap_chars {segments : List Segment} (canonical : Canonical segments) :
    scan 0 [] (segments.flatMap chars) = segments := by
  induction segments with
  | nil => rfl
  | cons segment rest ih =>
      have ih := ih canonical.tail
      rw [List.flatMap_cons]
      cases segment with
      | placeholder name =>
          have named := canonical.named name List.mem_cons_self
          rw [chars_placeholder, scan_braced named, ih]
          simp [pendingLiteral]
      | literal text =>
          have starts : ∀ next ∈ rest.head?, next.name?.isSome := by
            have apart := (List.isChain_cons.mp canonical.apart).1
            simpa [name?] using apart
          have plain := canonical.plain text List.mem_cons_self
          have unbraced := Unbraced.of_not_braced plain (head?_flatMap_chars starts)
          have filled : text.toList ≠ [] := by
            intro empty
            have : text = "" := String.toList_eq_nil_iff.mp empty
            exact canonical.filled (this ▸ List.mem_cons_self)
          rw [chars, scan_unbraced unbraced, List.append_nil,
            scan_pending canonical.tail starts, ih]
          cases reversed : text.toList.reverse with
          | nil => exact absurd (List.reverse_eq_nil_iff.mp reversed) filled
          | cons c pending => simp [pendingLiteral, ← reversed]

/-! ## Reading and printing -/

theorem print_parse (template : String) : print (parse template) = template := by
  rw [print, parse, flatMap_chars_scan]
  simp

theorem canonical_parse (template : String) : Canonical (parse template) :=
  canonical_scan 0 [] template.toList (.nil _)

theorem parse_print {segments : List Segment} (canonical : Canonical segments) :
    parse (print segments) = segments := by
  rw [parse, print, String.toList_ofList, scan_flatMap_chars canonical]

end Segment

namespace CompiledKey

theorem segments_eq_parse {template : Value} {known : List String} {operation mode : String}
    {key : CompiledKey} (compiled : compile template known operation mode = .ok key) :
    template.text? = some key.template ∧ key.segments = Segment.parse key.template := by
  unfold compile at compiled
  split at compiled
  · cases compiled
  · rename_i text isText
    simp only at compiled
    split at compiled
    · cases compiled
    · split at compiled
      · cases compiled
      · cases compiled
        exact ⟨isText, rfl⟩

end CompiledKey

namespace Segment

theorem eq_parse_iff {template : String} {segments : List Segment} :
    segments = parse template ↔ Canonical segments ∧ print segments = template := by
  constructor
  · rintro rfl
    exact ⟨canonical_parse template, print_parse template⟩
  · rintro ⟨canonical, rfl⟩
    exact (parse_print canonical).symm

/-- Reading and printing are mutually inverse, and what is compiled is the reading. -/
theorem canonical_reading :
    (∀ template, print (parse template) = template ∧ Canonical (parse template)) ∧
      (∀ segments, Canonical segments → parse (print segments) = segments) ∧
      ∀ value known operation mode key,
        CompiledKey.compile value known operation mode = .ok key →
          value.text? = some key.template ∧
            ∀ segments, segments = key.segments ↔
              Canonical segments ∧ print segments = key.template := by
  refine ⟨fun template => ⟨print_parse template, canonical_parse template⟩,
    fun segments canonical => parse_print canonical, ?_⟩
  intro value known operation mode key compiled
  obtain ⟨isText, parsed⟩ := CompiledKey.segments_eq_parse compiled
  exact ⟨isText, fun segments => by rw [parsed, eq_parse_iff]⟩

/-- Of three open braces the last one belongs to the placeholder, and a digit begins no name. -/
theorem canonical_reading_stray_braces :
    let segments := [literal "\x7b\x7b", placeholder "a", literal "\x7d\x7b1x\x7d"]
    let key : CompiledKey := ⟨"\x7b\x7b\x7ba\x7d\x7d\x7b1x\x7d", segments⟩
    Canonical segments ∧
      CompiledKey.compile (.text key.template) ["a"] "app.find/1" "cache" = .ok key ∧
      parse (print segments) = segments ∧ segments = key.segments := by
  intro segments key
  have parsed : parse key.template = segments := by decide
  have canonical : Canonical segments := parsed ▸ canonical_parse key.template
  have compiled :
      CompiledKey.compile (.text key.template) ["a"] "app.find/1" "cache" = .ok key := by
    cbv
  obtain ⟨-, readBack, reading⟩ := canonical_reading
  exact ⟨canonical, compiled, readBack segments canonical,
    ((reading _ _ _ _ key compiled).2 segments).mpr ⟨canonical, rfl⟩⟩

end Segment

end CachePolicy
