import FederatedCatalog.Text.RangeTable

/-!
# Percent-encoding

Bytes in which `%` and two hexadecimal digits stand for one byte. A `%` that two digits do not
follow stands for itself.
-/

namespace FederatedCatalog.Uri

/-- The value of a byte that is a hexadecimal digit. -/
def hexByte? (b : UInt8) : Option UInt8 :=
  (Text.hexDigit? (Char.ofNat b.toNat)).map UInt8.ofNat

/-- Replace each `%` and its two digits by the byte that they stand for. -/
def percentDecode : List UInt8 → List UInt8
  | 0x25 :: high :: low :: rest =>
    match hexByte? high, hexByte? low with
    | some h, some l => (16 * h + l) :: percentDecode rest
    | _, _ => 0x25 :: percentDecode (high :: low :: rest)
  | b :: rest => b :: percentDecode rest
  | [] => []

/-- The UTF-8 bytes of characters. -/
def utf8Bytes (cs : List Char) : List UInt8 := cs.flatMap String.utf8EncodeChar

end FederatedCatalog.Uri
