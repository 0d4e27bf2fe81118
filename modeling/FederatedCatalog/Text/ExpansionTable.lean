import Std.Data.HashMap
import FederatedCatalog.Text.RangeTable

/-!
# Expansion tables

A table that sends characters to several characters each. Tables are written as text, one entry a
word: `FB01=66,69` sends U+FB01 to the characters U+0066 and U+0069. All digits are hexadecimal.
-/

namespace FederatedCatalog.Text

/-- Code points of characters, and what each of these is sent to. -/
abbrev ExpansionTable := Std.HashMap Nat (List Char)

namespace ExpansionTable

/-- Read a table from the lines that hold its words. -/
def ofLines (lines : List String) : ExpansionTable :=
  let code (digits : String) : Nat := RangeTable.hex digits.toList
  (lines.flatMap fun line => line.splitOn " ").foldl (fun t w =>
    match w.splitOn "=" with
    | [key, image] => t.insert (code key) ((image.splitOn ",").map (Char.ofNat ∘ code))
    | _ => t) ∅

end ExpansionTable

end FederatedCatalog.Text
