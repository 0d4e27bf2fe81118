import FederatedCatalog.Resource.Basic
import FederatedCatalog.Text.Casing
import FederatedCatalog.Text.Substring

/-!
# Matching resources against templates

A template asks for its own channel, the empty one included. Its owner and URI must be met exactly
unless they are empty, each of its tags must be a tag of the candidate up to letter case, and when
it carries a name or a description, one of them must occur in the candidate's.
-/

namespace FederatedCatalog.Resource

/-- Whether every wanted tag is available, up to letter case. -/
def tagsSubset (wanted available : List String) : Bool :=
  let available := available.map Text.lowercase
  wanted.all fun tag => available.contains (Text.lowercase tag)

/-- Whether the template's name or description, if it has one, occurs in the candidate's. -/
def wordingMatches (template candidate : Resource) : Bool :=
  (template.name.isEmpty && template.description.isEmpty) ||
    (!template.name.isEmpty && Text.contains candidate.name template.name) ||
    (!template.description.isEmpty && Text.contains candidate.description template.description)

/-- Whether a candidate meets a template. -/
def matchedBy (candidate template : Resource) : Bool :=
  template.channel == candidate.channel &&
    (template.owner.isEmpty || template.owner == candidate.owner) &&
    tagsSubset template.tags candidate.tags &&
    (template.uri.isEmpty || template.uri == candidate.uri) &&
    wordingMatches template candidate

end FederatedCatalog.Resource
