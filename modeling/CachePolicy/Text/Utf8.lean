import CachePolicy.Text.Quoted

/-!
# Reading of UTF-8

Octets that form a well-formed UTF-8 sequence are read as its character.  In a lenient
reading every octet outside such a sequence is kept as a backslash, an `x` and its two
hexadecimal digits, so it never fails; a strict reading refuses the octets then.
-/

namespace CachePolicy

def isContinuation (octet : UInt8) : Bool := 0x80 ≤ octet && octet ≤ 0xBF

/-- The bounds of the second octet, which exclude long forms, surrogates and numbers past the
last character. -/
def secondOctetRange (first : UInt8) : UInt8 × UInt8 :=
  if first = 0xE0 then (0xA0, 0xBF)
  else if first = 0xED then (0x80, 0x9F)
  else if first = 0xF0 then (0x90, 0xBF)
  else if first = 0xF4 then (0x80, 0x8F)
  else (0x80, 0xBF)

/-- The character that a sequence starts with, and the number of octets behind its first. -/
def leadingChar? (first : UInt8) (rest : List UInt8) : Option (Char × Nat) :=
  if first < 0x80 then some (Char.ofNat first.toNat, 0)
  else
    match rest with
    | [] => none
    | second :: rest =>
        let (low, high) := secondOctetRange first
        if second < low || high < second then none
        else if 0xC2 ≤ first && first ≤ 0xDF then
          some (Char.ofNat (64 * (first.toNat - 0xC0) + (second.toNat - 0x80)), 1)
        else
          match rest with
          | [] => none
          | third :: rest =>
              if !isContinuation third then none
              else if 0xE0 ≤ first && first ≤ 0xEF then
                some (Char.ofNat (4096 * (first.toNat - 0xE0) + 64 * (second.toNat - 0x80) +
                  (third.toNat - 0x80)), 2)
              else
                match rest with
                | [] => none
                | fourth :: _ =>
                    if !isContinuation fourth then none
                    else if 0xF0 ≤ first && first ≤ 0xF4 then
                      some (Char.ofNat (262144 * (first.toNat - 0xF0) +
                        4096 * (second.toNat - 0x80) + 64 * (third.toNat - 0x80) +
                        (fourth.toNat - 0x80)), 3)
                    else none

/-- Reads octets, of which the first few belong to a character that was read already. -/
def lenientChars : Nat → List UInt8 → List Char
  | _, [] => []
  | skip + 1, _ :: rest => lenientChars skip rest
  | 0, octet :: rest =>
      match leadingChar? octet rest with
      | some (c, behind) => c :: lenientChars behind rest
      | none => escapedNumber octet.toNat ++ lenientChars 0 rest

/-- Reads octets that form sequences and nothing else, of which the first few belong to a
character that was read already. -/
def strictChars? : Nat → List UInt8 → Option (List Char)
  | _, [] => some []
  | skip + 1, _ :: rest => strictChars? skip rest
  | 0, octet :: rest => do
      let (c, behind) ← leadingChar? octet rest
      return c :: (← strictChars? behind rest)

def strictText? (octets : List UInt8) : Option String :=
  (strictChars? 0 octets).map String.ofList

def lenientText (octets : List UInt8) : String :=
  String.ofList (lenientChars 0 octets)

end CachePolicy
