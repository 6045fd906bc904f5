import CachePolicy.Text.Utf8

/-!
# Percent signs in addresses

A percent sign with two hexadecimal digits stands for an octet, and octets in a row are
read as UTF-8.
-/

namespace CachePolicy

/-- The octets of a text, of which the first few characters belong to an octet read already. -/
def percentOctets : Nat → List Char → List UInt8
  | _, [] => []
  | skip + 1, _ :: rest => percentOctets skip rest
  | 0, '%' :: rest =>
      match readOctets? (rest.take 2) with
      | some [octet] => octet :: percentOctets 2 rest
      | _ => 37 :: percentOctets 0 rest
  | 0, c :: rest => String.utf8EncodeChar c ++ percentOctets 0 rest

def percentDecoded (cs : List Char) : List Char := lenientChars 0 (percentOctets 0 cs)

end CachePolicy
