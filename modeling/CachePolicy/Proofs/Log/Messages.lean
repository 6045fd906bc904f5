import CachePolicy.Log.Message

/-!
# Messages made of texts

A message whose only directives ask for texts is filled by putting the texts in the places
of the directives, whatever the texts are.
-/

namespace CachePolicy

/-- A message with a directive for a text behind each of its pieces but the last one. -/
def templateChars (last : String) : List String → List Char
  | [] => last.toList
  | piece :: rest => piece.toList ++ '%' :: 's' :: templateChars last rest

/-- The message with a text behind each of its pieces but the last one. -/
def filledChars (last : String) : List (String × String) → List Char
  | [] => last.toList
  | (piece, text) :: rest => piece.toList ++ text.toList ++ filledChars last rest

variable {cs more rest : List Char} {position : Nat} {s left : Supply}

theorem fillMessage_char {c : Char} (other : c ≠ '%')
    (filled : fillMessage 0 (position + 1) rest s = .ok (more, left)) :
    fillMessage 0 position (c :: rest) s = .ok (c :: more, left) := by
  rw [fillMessage, filled]
  · rfl
  · exact fun _ same _ => other same
  · exact other

theorem fillMessage_plain (plain : '%' ∉ cs)
    (filled : fillMessage 0 (position + cs.length) rest s = .ok (more, left)) :
    fillMessage 0 position (cs ++ rest) s = .ok (cs ++ more, left) := by
  induction cs generalizing position with
  | nil => exact filled
  | cons c cs ih =>
      obtain ⟨first, others⟩ := not_or.mp (mt List.mem_cons.mpr plain)
      refine fillMessage_char (Ne.symm first) (ih others ?_)
      rwa [Nat.add_assoc, Nat.add_comm 1]

theorem read_text (rest : List Char) :
    MessageDirective.read ('s' :: rest) = ⟨none, [], .absent, .absent, some 's', 1⟩ := by
  have noFlag : MessageDirective.isFlag 's' = false := rfl
  have noDigits : spanDigits ('s' :: rest) = ([], 's' :: rest) := rfl
  simp [MessageDirective.read, noFlag, MessageDirective.readAmount,
    MessageDirective.readPrecision, noDigits, readNat?]

theorem fill_text (text : String) (waiting : List Value) (mapping : Option Value) :
    MessageDirective.fill ⟨none, [], .absent, .absent, some 's', 1⟩ position
        ⟨.text text :: waiting, mapping⟩ = .ok (text.toList, ⟨waiting, mapping⟩) := by
  have room : MessageDirective.roomLimit ≠ 0 := by decide
  have narrow : padLeft 0 ' ' text.toList = text.toList := by simp [padLeft]
  have shown : (Value.text text).display = .ok text := rfl
  simp [MessageDirective.fill, MessageDirective.takeWidth, MessageDirective.takePrecision,
    Supply.take, MessageDirective.argumentChars, MessageDirective.textChars, shown, bind,
    Except.bind, pure, Except.pure, narrow, room]

theorem fillMessage_text {text : String} {waiting : List Value} {mapping : Option Value}
    (filled : fillMessage 0 (position + 2) rest ⟨waiting, mapping⟩ = .ok (more, left)) :
    fillMessage 0 position ('%' :: 's' :: rest) ⟨.text text :: waiting, mapping⟩ =
      .ok (text.toList ++ more, left) := by
  rw [fillMessage, read_text]
  · dsimp only
    rw [fill_text]
    have skipped : fillMessage 1 (position + 1) ('s' :: rest) ⟨waiting, mapping⟩ =
        .ok (more, left) := by
      rw [fillMessage]
      exact filled
    simp only [skipped, bind, Except.bind, pure, Except.pure]
  · intro rest' same
    cases same

theorem fillMessage_pieces {last : String} {pieces texts : List String}
    (fits : pieces.length = texts.length) (plain : ∀ piece ∈ pieces, '%' ∉ piece.toList)
    (plainLast : '%' ∉ last.toList) (position : Nat) :
    fillMessage 0 position (templateChars last pieces) ⟨texts.map .text, none⟩ =
      .ok (filledChars last (pieces.zip texts), ⟨[], none⟩) := by
  induction pieces generalizing texts position with
  | nil =>
      obtain rfl := List.eq_nil_of_length_eq_zero fits.symm
      have ends : fillMessage 0 (position + last.toList.length) [] ⟨[], none⟩ =
          .ok ([], ⟨[], none⟩) := rfl
      simpa [templateChars, filledChars] using fillMessage_plain plainLast ends
  | cons piece pieces ih =>
      cases texts with
      | nil => cases fits
      | cons text texts =>
          obtain ⟨plainPiece, others⟩ := List.forall_mem_cons.mp plain
          rw [List.zip_cons_cons, filledChars, List.append_assoc]
          exact fillMessage_plain plainPiece
            (fillMessage_text (ih (Nat.succ.inj fits) others _))

/-- The texts are put in the places of the directives, percent signs in them and all. -/
theorem filledMessage_pieces (template last : String) (pieces : List String)
    {texts : List String} {message : String} (cut : template.toList = templateChars last pieces)
    (plain : ∀ piece ∈ last :: pieces, '%' ∉ piece.toList) (fits : pieces.length = texts.length)
    (filled : message.toList = filledChars last (pieces.zip texts)) :
    filledMessage template (.tuple (texts.map .text)) = .ok message := by
  obtain ⟨plainLast, plainPieces⟩ := List.forall_mem_cons.mp plain
  have supplied : Supply.ofValue (.tuple (texts.map .text)) = ⟨texts.map .text, none⟩ := rfl
  rw [filledMessage, cut, supplied, fillMessage_pieces fits plainPieces plainLast 0, ← filled]
  exact congrArg Except.ok String.ofList_toList

end CachePolicy
