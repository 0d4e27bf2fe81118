import FederatedCatalog.Domain.Mapping
import FederatedCatalog.Domain.PropertyTable
import FederatedCatalog.Domain.Punycode

/-!
# Labels of domain names

A label is what stands between the dots of a domain name. A label beyond ASCII has a writing in
ASCII, its Punycode after a prefix, and either form can be given.
-/

namespace FederatedCatalog.Domain

open Text

/-- The direction of a character. -/
inductive Direction where
  /-- Letters that run to the right. -/
  | right
  /-- Letters that run to the left. -/
  | left
  /-- Arabic numbers. -/
  | arabicNumber
  /-- European numbers. -/
  | europeanNumber
  /-- Characters without a direction. -/
  | neutral
  /-- Marks that take no room. -/
  | mark
  deriving Repr, DecidableEq

/-- The direction of a character. -/
def direction (c : Char) : Direction :=
  match directionRanges.valueAt c with
  | 1 => .left
  | 2 => .arabicNumber
  | 3 => .europeanNumber
  | 4 => .neutral
  | 5 => .mark
  | _ => .right

/-- How a character joins its neighbours. -/
inductive Joining where
  /-- Joins on both sides. -/
  | both
  /-- Joins what follows it. -/
  | next
  /-- Joins what stands before it. -/
  | previous
  /-- Joining looks through it. -/
  | transparent
  /-- Joins nothing. -/
  | none
  deriving Repr, DecidableEq

/-- How a character joins its neighbours. -/
def joining (c : Char) : Joining :=
  match joiningRanges.valueAt c with
  | 1 => .both
  | 2 => .next
  | 3 => .previous
  | 4 => .transparent
  | _ => .none

/-- The sign that suppresses the vowel of a consonant. -/
def isVirama (c : Char) : Bool := combiningClass c == 9

/-- Whether a break in joining after the reversed characters `before` and before `after` stands
between two characters that would join. -/
def breaksJoin (before after : List Char) : Bool :=
  let nearest (cs : List Char) : Option Joining :=
    (cs.map joining).find? (· != .transparent)
  (nearest before == some .both || nearest before == some .next) &&
    (nearest after == some .both || nearest after == some .previous)

/-- Whether every joiner and every break in joining stands where it shows; `before` holds the
characters before in reverse. -/
def joinersShow (before : List Char) : List Char → Bool
  | [] => true
  | c :: cs =>
    let shows :=
      if c = '\u200D' then before.head?.any isVirama
      else if c = '\u200C' then before.head?.any isVirama || breaksJoin before cs
      else true
    shows && joinersShow (c :: before) cs

/-- Whether a mapped label may be used. -/
def isUsable (cs : List Char) : Bool := !cs.head?.any markRanges.holds && joinersShow [] cs

/-- Whether a character makes a name one of both directions. -/
def runsLeft (c : Char) : Bool := direction c == .left || direction c == .arabicNumber

/-- Whether a label can be shown without confusion in a name of both directions. -/
def isOrdered (cs : List Char) : Bool :=
  let directions := cs.map direction
  let last := directions.reverse.find? (· != .mark)
  match directions with
  | [] => true
  | .right :: _ =>
    directions.all (fun d => d != .left && d != .arabicNumber) &&
      (last == some .right || last == some .europeanNumber)
  | .left :: _ =>
    directions.all (· != .right) &&
      (last == some .left || last == some .europeanNumber || last == some .arabicNumber) &&
      !(directions.contains .europeanNumber && directions.contains .arabicNumber)
  | _ => false

/-- The prefix of labels in Punycode. -/
def punycodePrefix : List Char := "xn--".toList

/-- The longest Punycode that is read. -/
def maxPunycode : Nat := 2000

/-- The longest label that is written in Punycode. -/
def maxEncoded : Nat := 1000

/-- Both forms of a label. -/
structure Label where
  /-- The label itself. -/
  text : List Char
  /-- Its writing in ASCII. -/
  ascii : List Char
  deriving Repr, DecidableEq

/-- The label that a mapped text writes. What Punycode stands for must go beyond ASCII and be mapped
already. -/
def Label.ofMapped? (cs : List Char) : Option Label :=
  let isAscii := cs.all fun c => c.toNat < 0x80
  if punycodePrefix.isPrefixOf cs then do
    let code := cs.drop punycodePrefix.length
    if ¬ isAscii ∨ maxPunycode < code.length then none
    let text ← Punycode.decode? code
    if (text.all fun c => c.toNat < 0x80) ∨ map? text ≠ some text ∨ ¬ isUsable text then none
    return { text, ascii := cs }
  else if isAscii then some { text := cs, ascii := cs }
  else if maxEncoded < cs.length ∨ ¬ isUsable cs then none
  else some { text := cs, ascii := punycodePrefix ++ Punycode.encode cs }

end FederatedCatalog.Domain
