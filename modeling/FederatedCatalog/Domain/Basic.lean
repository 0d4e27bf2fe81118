import FederatedCatalog.Domain.Label
import FederatedCatalog.Text.Splitting

/-!
# Domain names

The ASCII form of a domain name: the name is mapped and taken apart at its dots, and every label is
written in ASCII. Where a label runs to the left, the labels must keep to the rules that let their
characters be shown in an order that can be read back.
-/

namespace FederatedCatalog.Domain

/-- The characters that no domain name may hold. -/
def isForbidden (c : Char) : Bool :=
  c.toNat ≤ 0x20 || c == '\x7f' || "%#/:<>?@[\\]^|".toList.contains c

/-- The ASCII form of a domain name; it may be empty. -/
def toAscii? (cs : List Char) : Option (List Char) := do
  let mapped ← map? cs
  if mapped.any isForbidden then none
  let labels ← (Text.splitWhere (· == '.') mapped).mapM Label.ofMapped?
  if (labels.any fun l => l.text.any runsLeft) ∧ ¬ labels.all fun l => isOrdered l.text then none
  return ['.'].intercalate (labels.map Label.ascii)

end FederatedCatalog.Domain
