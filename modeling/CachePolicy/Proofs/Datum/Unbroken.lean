import CachePolicy.Proofs.Datum.Reading

/-!
# Data without control characters

Every control character in a text is escaped, and numbers and marks have none, so the text
of data stands on one line if the separators do.
-/

namespace CachePolicy

namespace Datum

/-- None of the characters is a control character below the blank. -/
def Unbroken (cs : List Char) : Prop := ∀ c ∈ cs, 0x20 ≤ c.toNat

instance (cs : List Char) : Decidable (Unbroken cs) := List.decidableBAll _ cs

@[simp] theorem unbroken_cons {c : Char} {cs : List Char} :
    Unbroken (c :: cs) ↔ 0x20 ≤ c.toNat ∧ Unbroken cs := List.forall_mem_cons

@[simp] theorem unbroken_append {cs ds : List Char} :
    Unbroken (cs ++ ds) ↔ Unbroken cs ∧ Unbroken ds := List.forall_mem_append

theorem unbroken_joined {separator : List Char} {parts : List (List Char)}
    (clear : Unbroken separator) (each : ∀ part ∈ parts, Unbroken part) :
    Unbroken (joinedChars separator parts) := by
  induction parts with
  | nil => exact nofun
  | cons part rest ih =>
      obtain ⟨first, others⟩ := List.forall_mem_cons.mp each
      cases rest with
      | nil => exact first
      | cons next rest =>
          exact unbroken_append.mpr ⟨unbroken_append.mpr ⟨first, clear⟩, ih others⟩

/-! ## Texts -/

theorem unbroken_toDigits (n : Nat) : Unbroken (Nat.toDigits 16 n) := by
  have digit : ∀ m < 16, Unbroken [Nat.digitChar m] := by decide
  -- The digits are those of the quotient and one more.
  induction n using Nat.strongRecOn with
  | ind n ih =>
      rw [Nat.toDigits_eq_if (by decide)]
      split
      · exact digit n (by omega)
      · exact unbroken_append.mpr ⟨ih (n / 16) (by omega), digit (n % 16) (by omega)⟩

theorem unbroken_padLeft (width : Nat) {cs : List Char} (clear : Unbroken cs) :
    Unbroken (padLeft width '0' cs) := by
  refine unbroken_append.mpr ⟨fun c filler => ?_, clear⟩
  rw [List.eq_of_mem_replicate filler]
  decide

theorem unbroken_escapedUnits (c : Char) : Unbroken (escapedUnits c) := by
  have unit : ∀ n, Unbroken (escapedUnit n) := fun n =>
    unbroken_cons.mpr ⟨by decide, unbroken_cons.mpr
      ⟨by decide, unbroken_padLeft 4 (unbroken_toDigits n)⟩⟩
  unfold escapedUnits
  split
  · exact unit _
  · exact unbroken_append.mpr ⟨unit _, unit _⟩

theorem unbroken_escapedChar (ascii : Bool) (c : Char) : Unbroken (escapedChar ascii c) := by
  unfold escapedChar
  iterate 7
    split
    · decide
  split
  · exact unbroken_escapedUnits c
  · rename_i unescaped
    have above : 0x20 ≤ c.toNat := by simp at unescaped; omega
    simpa [Unbroken] using above

theorem unbroken_textChars (ascii : Bool) (s : String) : Unbroken (textChars ascii s) := by
  refine unbroken_cons.mpr ⟨by decide, unbroken_append.mpr ⟨fun c member => ?_, by decide⟩⟩
  obtain ⟨source, -, escaped⟩ := List.mem_flatMap.mp member
  exact unbroken_escapedChar ascii source c escaped

/-! ## Numbers -/

theorem unbroken_of_number {cs : List Char} (number : ∀ c ∈ cs, IsNumberChar c) :
    Unbroken cs := by
  intro c member
  rcases number c member with digit | letter
  · have least : 0x30 ≤ c.toNat := (Char.isDigit_iff_toNat.mp digit).1
    omega
  · have letters : Unbroken numberLetters := by decide
    exact letters c letter

/-! ## Data -/

theorem unbroken_written {style : Style} (items : Unbroken style.itemSeparator)
    (names : Unbroken style.nameSeparator) (d : Datum) : Unbroken (d.written style) := by
  induction d with
  | null => exact (by decide : Unbroken "null".toList)
  | flag b =>
      cases b with
      | false => exact (by decide : Unbroken "false".toList)
      | true => exact (by decide : Unbroken "true".toList)
  | int n => exact unbroken_of_number fun c => integerText_chars n c
  | float x => exact unbroken_of_number (binaryNumeral_floatText x).2
  | text s => exact unbroken_textChars style.ascii s
  | list elements each =>
      rw [written_list]
      refine unbroken_cons.mpr ⟨by decide, unbroken_append.mpr ⟨?_, by decide⟩⟩
      exact unbroken_joined items (List.forall_mem_map.mpr each)
  | map members each =>
      rw [written_map]
      refine unbroken_cons.mpr ⟨by decide, unbroken_append.mpr ⟨?_, by decide⟩⟩
      refine unbroken_joined items (List.forall_mem_map.mpr fun member held => ?_)
      have listed := (laid_perm style.sorted members).mem_iff.mp held
      exact unbroken_append.mpr ⟨unbroken_append.mpr ⟨unbroken_textChars _ _, names⟩,
        each member listed⟩

end Datum

end CachePolicy
