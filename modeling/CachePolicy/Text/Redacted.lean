import CachePolicy.Text.Digits

/-!
# Texts without places

The text of an object may tell its place in memory, which differs from run to run.
`redacted` puts a fixed word for every such place, so equal runs report equal texts.
-/

namespace CachePolicy

def placeOpening : List Char := " at 0x".toList

def isPlaceDigit (c : Char) : Bool := (hexDigitValue? c).isSome && !('A' ≤ c && c ≤ 'F')

/-- The length of the place that a text starts with, up to the bracket that closes it. -/
def placeLength? (cs : List Char) : Option Nat :=
  if placeOpening.isPrefixOf cs then
    let behind := cs.drop placeOpening.length
    let digits := behind.takeWhile isPlaceDigit
    if !digits.isEmpty && (behind.drop digits.length).head? == some '>' then
      some (placeOpening.length + digits.length)
    else none
  else none

/-- Reads a text, of which the first few characters belong to a place already replaced. -/
def redactedChars : Nat → List Char → List Char
  | _, [] => []
  | skip + 1, _ :: rest => redactedChars skip rest
  | 0, c :: rest =>
      match placeLength? (c :: rest) with
      | some length => placeOpening ++ "ADDR".toList ++ redactedChars (length - 1) rest
      | none => c :: redactedChars 0 rest

def redacted (text : String) : String := String.ofList (redactedChars 0 text.toList)

end CachePolicy
