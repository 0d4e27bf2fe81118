import FederatedCatalog.Domain.Basic
import FederatedCatalog.IpAddress.Parser
import FederatedCatalog.Text.Utf8
import FederatedCatalog.Uri.Percent

/-!
# Hosts of URIs

The host of a URI is a domain name or an IP address. Under the special schemes a name is
percent-decoded and brought into its ASCII form, and a name that ends in a number must be an address
of version 4, whose one to four numbers may be decimal, octal or hexadecimal. Under any other scheme
a name is taken as it stands, short of a few forbidden characters.
-/

namespace FederatedCatalog.Uri

/-- The host of a URI. -/
inductive Host where
  /-- A name, never empty. -/
  | domain (name : List Char)
  /-- An address. -/
  | address (ip : IpAddress)
  deriving Repr, DecidableEq

/-- A version 6 address without its brackets. -/
def bracketed? (cs : List Char) : Option Host :=
  match cs.getLast?, IpAddress.v6? cs.dropLast with
  | some ']', some (bits, []) => some (.address (.v6 bits))
  | _, _ => none

/-- The base of a number of a version 4 address, and its digits. -/
def numberBase : List Char → Nat × List Char
  | '0' :: 'x' :: cs | '0' :: 'X' :: cs => (16, cs)
  | '0' :: c :: cs => (8, c :: cs)
  | cs => (10, cs)

/-- A number of a version 4 address. No digits after `0x` mean zero. -/
def v4Number? (cs : List Char) : Option Nat :=
  if cs.isEmpty then none
  else
    let (base, digits) := numberBase cs
    if digits.all fun c => (IpAddress.digit? base c).isSome then
      some ((digits.filterMap (IpAddress.digit? base)).foldl (fun n d => base * n + d) 0)
    else none

/-- The parts of a name between its dots; a dot at the end adds no part. -/
def labels (cs : List Char) : List (List Char) :=
  let parts := Text.splitWhere (· == '.') cs
  if parts.getLast? = some [] then parts.dropLast else parts

/-- Whether the last part of a name is a number. -/
def endsInNumber (cs : List Char) : Bool :=
  match (labels cs).getLast? with
  | none => false
  | some last => (!last.isEmpty && last.all Char.isDigit) || (v4Number? last).isSome

/-- The version 4 address with these numbers: the last one fills all the bytes that are left. -/
def v4OfNumbers? (ns : List Nat) : Option UInt32 :=
  match ns.getLast? with
  | none => none
  | some last =>
    let front := ns.dropLast
    if 3 < front.length ∨ front.any (255 < ·) ∨ 1 <<< (8 * (4 - front.length)) ≤ last then none
    else
      some (UInt32.ofNat
        ((front.foldl (fun n part => n * 256 + part) 0 <<< (8 * (4 - front.length))) + last))

/-- A version 4 address in the notations allowed in URIs. -/
def v4Host? (cs : List Char) : Option Host :=
  (((labels cs).mapM v4Number?).bind v4OfNumbers?).map fun bits => .address (.v4 bits)

/-- The host that is written under a special scheme or the file scheme. -/
def specialHost? : List Char → Option Host
  | '[' :: cs => bracketed? cs
  | cs =>
    match Text.Utf8.decode ⟨(percentDecode (utf8Bytes cs)).toArray⟩ with
    | .error _ => none
    | .ok decoded =>
      match Domain.toAscii? decoded.toList with
      | none | some [] => none
      | some name => if endsInNumber name then v4Host? name else some (.domain name)

/-- The characters that no host may hold. -/
def isForbiddenInHost (c : Char) : Bool :=
  c == '\x00' || c == '\t' || c == '\n' || c == '\r' || c == ' ' || c == '#' || c == '/' ||
    c == ':' || c == '<' || c == '>' || c == '?' || c == '@' || c == '[' || c == '\\' ||
    c == ']' || c == '^' || c == '|'

/-- The host that is written under any other scheme; it may be empty. -/
def opaqueHost? : List Char → Option (Option Host)
  | [] => some none
  | '[' :: cs => (bracketed? cs).map some
  | cs => if cs.any isForbiddenInHost then none else some (some (.domain cs))

end FederatedCatalog.Uri
