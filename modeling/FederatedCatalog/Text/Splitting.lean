/-!
# Splitting

The pieces of a text between its separators.
-/

namespace FederatedCatalog.Text

/-- Split characters at every separator; `run` holds those since the last one in reverse. -/
def splitFrom (separator : Char → Bool) (run : List Char) : List Char → List (List Char)
  | [] => [run.reverse]
  | c :: cs =>
    if separator c then run.reverse :: splitFrom separator [] cs
    else splitFrom separator (c :: run) cs

/-- Split characters at every separator. There is one piece more than there are separators. -/
def splitWhere (separator : Char → Bool) (cs : List Char) : List (List Char) :=
  splitFrom separator [] cs

end FederatedCatalog.Text
