import CachePolicy.Text.Digits
import CachePolicy.Text.Printable

/-!
# Quoted text

A quoted text stands between single quotes, or between double quotes when it holds
a single quote and no double one.  The quote in use and the backslash are escaped
by a backslash, line ends and tabs by a letter, and other characters that have no
shape by their number in hexadecimal.
-/

namespace CachePolicy

def quoteFor (hasSingle hasDouble : Bool) : Char :=
  if hasSingle && !hasDouble then '"' else '\''

/-- A character number behind a backslash, in two, four or eight hexadecimal digits. -/
def escapedNumber (n : Nat) : List Char :=
  if n < 0x100 then '\\' :: 'x' :: padLeft 2 '0' (Nat.toDigits 16 n)
  else if n < 0x10000 then '\\' :: 'u' :: padLeft 4 '0' (Nat.toDigits 16 n)
  else '\\' :: 'U' :: padLeft 8 '0' (Nat.toDigits 16 n)

def quotedChar (quote : Char) (c : Char) : List Char :=
  if c = quote || c = '\\' then ['\\', c]
  else if c = '\n' then ['\\', 'n']
  else if c = '\r' then ['\\', 'r']
  else if c = '\t' then ['\\', 't']
  else if isPrintable c then [c]
  else escapedNumber c.toNat

def quoted (text : String) : String :=
  let cs := text.toList
  let quote := quoteFor (cs.contains '\'') (cs.contains '"')
  String.ofList (quote :: cs.flatMap (quotedChar quote) ++ [quote])

/-! ## Octets -/

def quotedOctet (quote : Char) (octet : UInt8) : List Char :=
  if octet < 0x80 then
    let c := Char.ofNat octet.toNat
    if isPrintable c || c = '\n' || c = '\r' || c = '\t' then quotedChar quote c
    else escapedNumber octet.toNat
  else escapedNumber octet.toNat

/-- Octets between quotes, each written by a function of the quote in use. -/
def octetsBetween (write : Char → UInt8 → List Char) (octets : List UInt8) : String :=
  let quote := quoteFor (octets.contains 39) (octets.contains 34)
  String.ofList ('b' :: quote :: octets.flatMap (write quote) ++ [quote])

def quotedOctets (octets : List UInt8) : String := octetsBetween quotedOctet octets

/-- In a buffer that can change, a single quote is escaped even between double quotes. -/
def quotedBuffer (octets : List UInt8) : String :=
  octetsBetween (fun quote octet =>
    if octet = 39 then ['\\', '\''] else quotedOctet quote octet) octets

end CachePolicy
