import FederatedCatalog.Domain.MappingTable
import FederatedCatalog.Text.Normalization

/-!
# Mapping of domain names

Before a domain name is looked at, its characters are mapped: letters to lower case, variants of a
character to the plain one, and characters that do not show are dropped. The result is normalized.
-/

namespace FederatedCatalog.Domain

/-- What becomes of a character, unless it is refused. ASCII is never refused here. -/
def mapChar? (c : Char) : Option (List Char) :=
  if c.toNat < 0x80 then some [c.toLower]
  else if refusedRanges.holds c then none
  else if droppedRanges.holds c then some []
  else some (expansions[c.toNat]?.getD [(shifts.find? c).getD c])

/-- What becomes of a name, unless it holds a refused character. -/
def map? (cs : List Char) : Option (List Char) :=
  (cs.mapM mapChar?).map fun parts => Text.normalize parts.flatten

end FederatedCatalog.Domain
