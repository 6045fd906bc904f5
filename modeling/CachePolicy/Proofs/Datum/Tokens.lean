import CachePolicy.Proofs.Datum.Written
import Mathlib.Algebra.Group.Nat.Defs
import Mathlib.Data.Bool.AllAny
import Mathlib.Tactic.SplitIfs

/-!
# Texts and numbers inside longer texts

A quoted text is read back from the front of any text that begins with it: each of its
characters has an escape that begins no other one, and the quote at the end is not the
begin of an escape.  A number shows no mark of the notation, so it ends where the first
mark follows it, and a whole number is told apart from a binary one by its characters.
-/

namespace CachePolicy

variable {α : Type}

/-- Whoever sees the text of an item before what may follow it knows the item up to `R`, and
where its text ends. -/
def Readable (Follows : List Char → Prop) (R : α → α → Prop) (f : α → List Char) (a : α) : Prop :=
  ∀ b rest others, Follows rest → Follows others → f a ++ rest = f b ++ others →
    R a b ∧ rest = others

namespace Readable

variable {Follows : List Char → Prop} {R : α → α → Prop} {f : α → List Char} {closing : Char}

theorem follows_flatMap (going : ∀ a rest, Follows (f a ++ rest))
    (closed : ∀ rest, Follows (closing :: rest)) (items : List α) (rest : List Char) :
    Follows (items.flatMap f ++ closing :: rest) := by
  cases items with
  | nil => exact closed rest
  | cons a items =>
      rw [List.flatMap_cons, List.append_assoc]
      exact going a _

/-- Items that can be read are read one after the other, up to a mark that begins none of them. -/
theorem flatMap_closed {items : List α} (each : ∀ a ∈ items, Readable Follows R f a)
    (starts : ∀ a rest, (f a ++ rest).head? ≠ some closing)
    (going : ∀ a rest, Follows (f a ++ rest)) (closed : ∀ rest, Follows (closing :: rest)) :
    Readable (fun _ => True) (List.Forall₂ R) (fun items => items.flatMap f ++ [closing])
      items := by
  intro others rest rest' _ _ same
  simp only [List.append_assoc, List.singleton_append] at same
  induction items generalizing others with
  | nil =>
      cases others with
      | nil =>
          cases same
          exact ⟨.nil, rfl⟩
      | cons b others =>
          rw [List.flatMap_nil, List.nil_append, List.flatMap_cons, List.append_assoc] at same
          exact absurd (congrArg List.head? same).symm (starts b _)
  | cons a items ih =>
      rw [List.flatMap_cons, List.append_assoc] at same
      cases others with
      | nil => exact absurd (congrArg List.head? same) (starts a _)
      | cons b others =>
          rw [List.flatMap_cons, List.append_assoc] at same
          obtain ⟨first, behind⟩ := each a List.mem_cons_self b _ _
            (follows_flatMap going closed items rest) (follows_flatMap going closed others rest')
            same
          obtain ⟨more, ends⟩ := ih (fun a member => each a (List.mem_cons_of_mem _ member))
            others behind
          exact ⟨.cons first more, ends⟩

end Readable

namespace Datum

/-! ## Escapes of characters -/

theorem digitChar_injective : ∀ m < 16, ∀ n < 16, Nat.digitChar m = Nat.digitChar n → m = n := by
  decide

/-- Padded digits end in the last digit, behind the padded digits of all others. -/
theorem padLeft_toDigits (width n : Nat) :
    padLeft (width + 2) '0' (Nat.toDigits 16 n) =
      padLeft (width + 1) '0' (Nat.toDigits 16 (n / 16)) ++ [Nat.digitChar (n % 16)] := by
  rw [Nat.toDigits_eq_if (n := n) (by decide)]
  split
  · rename_i small
    have zero : Nat.toDigits 16 (n / 16) = ['0'] := by
      rw [Nat.div_eq_of_lt small]
      rfl
    rw [zero, Nat.mod_eq_of_lt small, padLeft, padLeft, List.length_singleton,
      List.length_singleton, ← List.replicate_succ']
    rfl
  · simp [padLeft]

theorem length_padLeft_toDigits {width n : Nat} (fits : n < 16 ^ (width + 1)) :
    (padLeft (width + 1) '0' (Nat.toDigits 16 n)).length = width + 1 := by
  induction width generalizing n with
  | zero => rw [Nat.toDigits_of_lt_base (by omega)]; rfl
  | succ width ih =>
      have less : n / 16 < 16 ^ (width + 1) := by
        rw [Nat.pow_succ] at fits
        omega
      rw [padLeft_toDigits, List.length_append, ih less]
      rfl

theorem padLeft_toDigits_injective {width m n : Nat} (left : m < 16 ^ (width + 1))
    (right : n < 16 ^ (width + 1))
    (same : padLeft (width + 1) '0' (Nat.toDigits 16 m) =
      padLeft (width + 1) '0' (Nat.toDigits 16 n)) : m = n := by
  induction width generalizing m n with
  | zero =>
      have small : m < 16 ∧ n < 16 := by omega
      rw [Nat.toDigits_of_lt_base small.1, Nat.toDigits_of_lt_base small.2] at same
      exact digitChar_injective m small.1 n small.2 (List.singleton_inj.mp same)
  | succ width ih =>
      rw [padLeft_toDigits, padLeft_toDigits] at same
      obtain ⟨front, last⟩ := List.append_inj' same rfl
      rw [Nat.pow_succ] at left right
      have above : m / 16 = n / 16 := ih (by omega) (by omega) front
      have below : m % 16 = n % 16 :=
        digitChar_injective _ (by omega) _ (by omega) (List.singleton_inj.mp last)
      omega

theorem escapedUnit_append_inj {m n : Nat} {rest others : List Char} (left : m < 0x10000)
    (right : n < 0x10000) (same : escapedUnit m ++ rest = escapedUnit n ++ others) :
    m = n ∧ rest = others := by
  have digits := List.tail_eq_of_cons_eq (List.tail_eq_of_cons_eq same)
  have lengths : (padLeft 4 '0' (Nat.toDigits 16 m)).length =
      (padLeft 4 '0' (Nat.toDigits 16 n)).length := by
    rw [length_padLeft_toDigits left, length_padLeft_toDigits right]
  obtain ⟨here, behind⟩ := List.append_inj digits lengths
  exact ⟨padLeft_toDigits_injective left right here, behind⟩

theorem escapedUnits_append_inj {c d : Char} {rest others : List Char}
    (same : escapedUnits c ++ rest = escapedUnits d ++ others) : c = d ∧ rest = others := by
  -- the first unit of a pair is not the number of a character
  have validLeft : c.toNat < 0xD800 ∨ 0xDFFF < c.toNat ∧ c.toNat < 0x110000 := c.valid
  have validRight : d.toNat < 0xD800 ∨ 0xDFFF < d.toNat ∧ d.toNat < 0x110000 := d.valid
  unfold escapedUnits at same
  split at same
  · rename_i left
    split at same
    · rename_i right
      obtain ⟨number, behind⟩ := escapedUnit_append_inj left right same
      exact ⟨Char.toNat_inj.mp number, behind⟩
    · rw [List.append_assoc] at same
      have number := (escapedUnit_append_inj left (by omega) same).1
      omega
  · split at same
    · rename_i right
      rw [List.append_assoc] at same
      have number := (escapedUnit_append_inj (by omega) right same).1
      omega
    · rw [List.append_assoc, List.append_assoc] at same
      obtain ⟨high, behind⟩ := escapedUnit_append_inj (by omega) (by omega) same
      obtain ⟨low, behind⟩ := escapedUnit_append_inj (by omega) (by omega) behind
      exact ⟨Char.toNat_inj.mp (by omega), behind⟩

/-- The characters with an escape of two characters, and the second one of it. -/
def shortEscapes : List (Char × Char) :=
  [('"', '"'), ('\\', '\\'), ('\n', 'n'), ('\r', 'r'), ('\t', 't'), ('\x08', 'b'), ('\x0c', 'f')]

inductive Escape (c : Char) : List Char → Prop
  | short {letter : Char} (listed : (c, letter) ∈ shortEscapes) : Escape c ['\\', letter]
  | units : Escape c (escapedUnits c)
  | plain (unquoted : c ≠ '"') (unescaped : c ≠ '\\') : Escape c [c]

theorem escape_escapedChar (ascii : Bool) (c : Char) : Escape c (escapedChar ascii c) := by
  unfold escapedChar
  split_ifs with quote backslash newline carriage tab backspace feed
  · exact .short (by simp [quote, shortEscapes])
  · exact .short (by simp [backslash, shortEscapes])
  · exact .short (by simp [newline, shortEscapes])
  · exact .short (by simp [carriage, shortEscapes])
  · exact .short (by simp [tab, shortEscapes])
  · exact .short (by simp [backspace, shortEscapes])
  · exact .short (by simp [feed, shortEscapes])
  · exact .units
  · exact .plain quote backslash

theorem shortEscapes_injective {c d letter : Char} (left : (c, letter) ∈ shortEscapes)
    (right : (d, letter) ∈ shortEscapes) : c = d := by
  have each : ∀ e ∈ shortEscapes, ∀ e' ∈ shortEscapes, e.2 = e'.2 → e.1 = e'.1 := by decide
  exact each _ left _ right rfl

theorem ne_of_mem_shortEscapes {c letter : Char} (listed : (c, letter) ∈ shortEscapes) :
    letter ≠ 'u' := by
  have each : ∀ e ∈ shortEscapes, e.2 ≠ 'u' := by decide
  exact each _ listed

theorem escapedUnits_eq (c : Char) : ∃ digits, escapedUnits c = '\\' :: 'u' :: digits := by
  unfold escapedUnits escapedUnit
  split
  · exact ⟨_, rfl⟩
  · exact ⟨_, by rw [List.cons_append, List.cons_append]⟩

/-- An escape begins no other one. -/
theorem Escape.append_inj {c d : Char} {cs ds rest others : List Char} (left : Escape c cs)
    (right : Escape d ds) (same : cs ++ rest = ds ++ others) : c = d ∧ rest = others := by
  obtain ⟨digits, units⟩ := escapedUnits_eq c
  obtain ⟨digits', units'⟩ := escapedUnits_eq d
  cases left with
  | short listed =>
      cases right with
      | short listed' =>
          cases same
          exact ⟨shortEscapes_injective listed listed', rfl⟩
      | units =>
          rw [units'] at same
          cases same
          exact absurd rfl (ne_of_mem_shortEscapes listed)
      | plain _ unescaped =>
          cases same
          exact absurd rfl unescaped
  | units =>
      cases right with
      | short listed =>
          rw [units] at same
          cases same
          exact absurd rfl (ne_of_mem_shortEscapes listed)
      | units => exact escapedUnits_append_inj same
      | plain _ unescaped =>
          rw [units] at same
          cases same
          exact absurd rfl unescaped
  | plain _ unescaped =>
      cases right with
      | short listed =>
          cases same
          exact absurd rfl unescaped
      | units =>
          rw [units'] at same
          cases same
          exact absurd rfl unescaped
      | plain =>
          cases same
          exact ⟨rfl, rfl⟩

theorem head?_escapedChar (ascii : Bool) (c : Char) (rest : List Char) :
    (escapedChar ascii c ++ rest).head? ≠ some '"' := by
  obtain ⟨digits, units⟩ := escapedUnits_eq c
  have escape := escape_escapedChar ascii c
  generalize escapedChar ascii c = cs at escape
  cases escape with
  | short => simp
  | units => simp [units]
  | plain unquoted => simpa using unquoted

theorem readable_textChars (ascii : Bool) (s : String) :
    Readable (fun _ => True) Eq (textChars ascii) s := by
  intro t rest others _ _ same
  have each : ∀ c ∈ s.toList, Readable (fun _ => True) Eq (escapedChar ascii) c :=
    fun c _ d _ _ _ _ => (escape_escapedChar ascii c).append_inj (escape_escapedChar ascii d)
  obtain ⟨characters, behind⟩ := Readable.flatMap_closed each (head?_escapedChar ascii)
    (fun _ _ => trivial) (fun _ => trivial) t.toList rest others trivial trivial
    (List.tail_eq_of_cons_eq same)
  exact ⟨String.toList_injective (List.forall₂_eq_eq_eq ▸ characters), behind⟩

/-! ## Numbers -/

theorem integerText_ne_nil (n : Int) : (integerText n).toList ≠ [] := by
  cases n with
  | ofNat n => simp [integerText, decimalDigits]
  | negSucc n => simp [integerText]

theorem mem_integerText {n : Int} {c : Char} (member : c ∈ (integerText n).toList) :
    c.isDigit = true ∨ c = '-' := by
  have digit : ∀ n, c ∈ decimalDigits n → c.isDigit = true := fun n =>
    Nat.isDigit_of_mem_toDigits (by decide) (by decide)
  cases n with
  | ofNat n =>
      rw [integerText, String.toList_ofList] at member
      exact .inl (digit n member)
  | negSucc n =>
      rw [integerText, String.toList_ofList, List.mem_cons] at member
      exact member.symm.imp_left (digit _)

theorem decimalDigits_injective {m n : Nat} (same : decimalDigits m = decimalDigits n) :
    m = n := by
  have read : ∀ n, Nat.ofDigitChars 10 (decimalDigits n) 0 = n := fun n =>
    Nat.ofDigitChars_toDigits (by decide) (by decide)
  rw [← read m, same, read]

theorem minus_not_mem_decimalDigits (n : Nat) : '-' ∉ decimalDigits n := by
  intro member
  exact absurd (Nat.isDigit_of_mem_toDigits (by decide) (by decide) member) (by decide)

theorem integerText_injective {m n : Int} (same : integerText m = integerText n) : m = n := by
  have characters := congrArg String.toList same
  cases m with
  | ofNat m =>
      cases n with
      | ofNat n =>
          simp only [integerText, String.toList_ofList] at characters
          rw [decimalDigits_injective characters]
      | negSucc n =>
          simp only [integerText, String.toList_ofList] at characters
          refine absurd ?_ (minus_not_mem_decimalDigits m)
          rw [characters]
          exact List.mem_cons_self
  | negSucc m =>
      cases n with
      | ofNat n =>
          simp only [integerText, String.toList_ofList] at characters
          refine absurd ?_ (minus_not_mem_decimalDigits n)
          rw [← characters]
          exact List.mem_cons_self
      | negSucc n =>
          simp only [integerText, String.toList_ofList] at characters
          have successors := decimalDigits_injective (List.tail_eq_of_cons_eq characters)
          rw [Nat.succ.inj successors]

/-- The characters of numbers that are no digits. -/
def numberLetters : List Char := "-+.eNaInfity".toList

def IsNumberChar (c : Char) : Prop := c.isDigit = true ∨ c ∈ numberLetters

theorem isNumberChar_of_mem_decimalDigits {n : Nat} {c : Char} (member : c ∈ decimalDigits n) :
    IsNumberChar c :=
  .inl (Nat.isDigit_of_mem_toDigits (by decide) (by decide) member)

/-- Binary numbers have a point, an exponent or no digits at all. -/
def BinaryNumeral (cs : List Char) : Prop :=
  (∃ c ∈ ['.', 'e', 'N', 'I'], c ∈ cs) ∧ ∀ c ∈ cs, IsNumberChar c

theorem BinaryNumeral.minus {cs : List Char} (numeral : BinaryNumeral cs) :
    BinaryNumeral ('-' :: cs) := by
  obtain ⟨⟨c, listed, member⟩, each⟩ := numeral
  exact ⟨⟨c, listed, List.mem_cons_of_mem _ member⟩,
    List.forall_mem_cons.mpr ⟨.inr (by decide), each⟩⟩

theorem binaryNumeral_positional (n : Nat) (leading : Int) :
    BinaryNumeral (Binary64.positional (decimalDigits n) leading) := by
  have zero : IsNumberChar '0' := .inl (by decide)
  have point : IsNumberChar '.' := .inr (by decide)
  have digit : ∀ c ∈ decimalDigits n, IsNumberChar c := fun _ => isNumberChar_of_mem_decimalDigits
  unfold Binary64.positional
  split
  · refine ⟨⟨'.', by simp, by simp⟩, ?_⟩
    intro c member
    simp only [List.mem_cons, List.mem_append, List.mem_replicate] at member
    rcases member with rfl | rfl | ⟨-, rfl⟩ | member
    · exact zero
    · exact point
    · exact zero
    · exact digit c member
  · refine ⟨⟨'.', by simp, by simp⟩, ?_⟩
    intro c member
    simp only [padRight, List.mem_cons, List.mem_append, List.mem_replicate] at member
    rcases member with (member | ⟨-, rfl⟩) | rfl | member
    · exact digit c (List.mem_of_mem_take member)
    · exact zero
    · exact point
    · split at member
      · rw [List.mem_singleton.mp member]
        exact zero
      · exact digit c (List.mem_of_mem_drop member)

theorem binaryNumeral_exponential (n : Nat) (leading : Int) :
    BinaryNumeral (Binary64.exponential Binary64.plainStyle (decimalDigits n) leading) := by
  have letter : ∀ c ∈ numberLetters, IsNumberChar c := fun _ => .inr
  have digit : ∀ c ∈ decimalDigits n, IsNumberChar c := fun _ => isNumberChar_of_mem_decimalDigits
  unfold Binary64.exponential Binary64.plainStyle
  refine ⟨⟨'e', by simp, by simp⟩, ?_⟩
  intro c member
  simp only [padLeft, List.mem_cons, List.mem_append, List.mem_replicate] at member
  rcases member with (member | member) | rfl | rfl | ⟨-, rfl⟩ | member
  · exact digit c (List.mem_of_mem_take member)
  · split at member
    · cases member
    · rcases List.mem_cons.mp member with rfl | member
      · exact letter _ (by decide)
      · exact digit c (List.mem_of_mem_drop member)
  · exact letter _ (by decide)
  · split
    · exact letter _ (by decide)
    · exact letter _ (by decide)
  · exact .inl (by decide)
  · exact isNumberChar_of_mem_decimalDigits member

theorem binaryNumeral_floatText (x : Binary64) : BinaryNumeral (floatText x).toList := by
  have infinity : BinaryNumeral "Infinity".toList := by
    have letters : ∀ c ∈ "Infinity".toList, c ∈ numberLetters :=
      List.all_iff_forall_prop.mp (by decide)
    exact ⟨⟨'I', by decide, by decide⟩, fun c member => .inr (letters c member)⟩
  cases x with
  | nan =>
      have letters : ∀ c ∈ "NaN".toList, c ∈ numberLetters :=
        List.all_iff_forall_prop.mp (by decide)
      exact ⟨⟨'N', by decide, by decide⟩, fun c member => .inr (letters c member)⟩
  | infinite negative =>
      cases negative with
      | false => exact infinity
      | true => exact infinity.minus
  | finite negative significand exponent =>
      have signed : ∀ body, BinaryNumeral body →
          BinaryNumeral (if negative then '-' :: body else body) := by
        intro body numeral
        split
        · exact numeral.minus
        · exact numeral
      rw [floatText, Binary64.text, Binary64.textWith, String.toList_ofList]
      refine signed _ ?_
      split
      · exact binaryNumeral_positional 0 0
      · dsimp only
        split
        · exact binaryNumeral_positional _ _
        · exact binaryNumeral_exponential _ _
      · exact nofun
      · exact nofun

end Datum

end CachePolicy
