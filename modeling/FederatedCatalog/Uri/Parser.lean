import FederatedCatalog.Text.Blank
import FederatedCatalog.Uri.FilePath
import FederatedCatalog.Uri.Host

/-!
# Reading URIs

The reading of absolute URIs that browsers agree on: control characters and spaces are trimmed at
the ends, tabs and line breaks are skipped everywhere, backslashes count as slashes under the
special schemes, and a missing pair of slashes before the host is forgiven there. Only the path of a
file URI is kept, as nothing else on the host is named by a URI.
-/

namespace FederatedCatalog

/-- An absolute URI. -/
structure Uri where
  /-- The scheme, in lower case. -/
  scheme : String
  /-- The user name before the host, as written. -/
  username : List Char := []
  /-- The password before the host, as written. -/
  password : List Char := []
  /-- The host, unless it is empty. -/
  host : Option Uri.Host := none
  /-- The port, unless it is absent or the usual one of the scheme. -/
  port : Option Nat := none
  /-- The segments of the path of a file URI. -/
  segments : List (List Char) := []
  deriving Repr, DecidableEq

namespace Uri

/-- The scheme of URIs that name files. -/
def fileScheme : String := "file"

/-- The special schemes other than the file scheme, with their usual ports. -/
def usualPorts : List (String × Nat) :=
  [("http", 80), ("https", 443), ("ws", 80), ("wss", 443), ("ftp", 21)]

/-- Drop control characters and spaces at both ends. -/
def trimControls (cs : List Char) : List Char :=
  let isControl (c : Char) : Bool := c.toNat ≤ 0x20
  ((cs.dropWhile isControl).reverse.dropWhile isControl).reverse

/-- Whether a character may follow the first one of a scheme. -/
def isSchemeChar (c : Char) : Bool := c.isAlphanum || c == '+' || c == '-' || c == '.'

/-- The scheme, and what follows its colon. -/
def scheme? (cs : List Char) : Option (String × List Char) :=
  let (piece, rest) := cs.span (· != ':')
  match visible piece, rest with
  | c :: name, _ :: rest =>
    if c.isAlpha && name.all isSchemeChar then
      some (String.ofList ((c :: name).map Char.toLower), rest)
    else none
  | _, _ => none

/-- A slash, or under the special schemes a backslash. -/
def isSlash (special : Bool) (c : Char) : Bool := c == '/' || (special && c == '\\')

/-- The characters that end an authority. -/
def endsAuthority (special : Bool) (c : Char) : Bool := isSlash special c || c == '?' || c == '#'

/-- Cut the host off before the first colon that does not stand in brackets. -/
def splitHost (inBrackets : Bool) : List Char → List Char × List Char
  | [] => ([], [])
  | c :: cs =>
    if c = ':' ∧ ¬ inBrackets then ([], c :: cs)
    else
      let (host, rest) :=
        splitHost (if c = '[' then true else if c = ']' then false else inBrackets) cs
      (c :: host, rest)

/-- A port number of at most 65535, up to a slash of either kind. No digits mean no port, and so
does the usual port of the scheme. -/
def port? (usual : Option Nat) (cs : List Char) : Option (Option Nat) :=
  let (digits, rest) := cs.span Char.isDigit
  let n := digits.foldl (fun n d => 10 * n + (d.toNat - '0'.toNat)) 0
  if 65535 < n then none
  else match rest with
    | [] | '\\' :: _ => some (if digits.isEmpty ∨ usual = some n then none else some n)
    | _ => none

/-- The part before the last `@`, if there is one, and the part after it. -/
def splitUserInfo (cs : List Char) : Option (List Char) × List Char :=
  let (tail, front) := cs.reverse.span (· != '@')
  match front with
  | [] => (none, cs)
  | _ :: front => (some front.reverse, tail.reverse)

/-- The URI with an authority, which is given without its skipped characters; `more` says whether
something follows it. -/
def withAuthority? (scheme : String) (usual : Option Nat) (authority : List Char) (more : Bool) :
    Option Uri := do
  let special := usual.isSome
  let (userInfo, server) := splitUserInfo authority
  if userInfo = some [] ∧ server = [] ∧ more then none
  let (username, password) := (userInfo.getD []).span (· != ':')
  let password := password.drop 1
  let (name, rest) := splitHost false server
  let host ← if special then (specialHost? name).map some else opaqueHost? name
  if host = none ∧ (rest ≠ [] ∨ username ≠ [] ∨ password ≠ []) then none
  let port ← port? usual (rest.drop 1)
  return { scheme, username, password, host, port }

/-- The segments written in a path up to a query or fragment. -/
def writtenSegments (cs : List Char) : List (List Char) :=
  Text.splitWhere (isSlash true) (cs.takeWhile fun c => c != '?' && c != '#')

/-- The file URI whose path continues `start` and whose host is given. -/
def withFilePath (start : List (List Char)) (host : Option Host) (cs : List Char) : Uri :=
  let state := (PathState.mk start false).takeAll (writtenSegments cs)
  { scheme := fileScheme
    host := if state.dropsHost then none else host
    segments := rooted state.segments.reverse }

/-- Drop the slash that opens a path, if there is one. -/
def dropSlash (cs : List Char) : List Char :=
  match skipIgnored cs with
  | c :: rest => if isSlash true c then rest else c :: rest
  | [] => []

/-- The file URI after two slashes. A drive letter in the place of the host belongs to the path, and
the host `localhost` counts as none. -/
def fileWithHost? (cs : List Char) : Option Uri :=
  let (written, rest) := cs.span fun c => !endsAuthority true c
  let name := visible written
  if isDriveLetter name then some (withFilePath [[]] none cs)
  else if name = [] then some (withFilePath [[]] none rest)
  else match specialHost? name with
    | none => none
    | some host =>
      if host = .domain "localhost".toList then some (withFilePath [[]] none rest)
      else some (withFilePath [[]] (some host) (dropSlash rest))

/-- The file URI after its colon. -/
def file? (cs : List Char) : Option Uri :=
  match skipIgnored cs with
  | c :: rest =>
    if isSlash true c then
      match skipIgnored rest with
      | d :: rest' => if isSlash true d then fileWithHost? rest' else some (withFilePath [] none cs)
      | [] => some (withFilePath [] none cs)
    else some (withFilePath [[]] none cs)
  | [] => some (withFilePath [[]] none cs)

/-- What follows two slashes. -/
def afterSlashes? (cs : List Char) : Option (List Char) :=
  match skipIgnored cs with
  | '/' :: rest =>
    match skipIgnored rest with
    | '/' :: rest => some rest
    | _ => none
  | _ => none

/-- The URI that a whole text writes. -/
def parse? (text : String) : Option Uri :=
  match scheme? (trimControls text.toList) with
  | none => none
  | some (scheme, rest) =>
    let authority? (usual : Option Nat) (cs : List Char) : Option Uri :=
      let (written, more) := cs.span fun c => !endsAuthority usual.isSome c
      withAuthority? scheme usual (visible written) (!more.isEmpty)
    if scheme = fileScheme then file? rest
    else match usualPorts.lookup scheme with
      | some port => authority? (some port) (rest.dropWhile fun c => isSlash true c || isIgnored c)
      | none =>
        match afterSlashes? rest with
        | some rest => authority? none rest
        | none => some { scheme }

/-- Whether a URI names a host, a user or a port. -/
def hasAuthority (u : Uri) : Bool := u.host.isSome || !u.username.isEmpty || u.port.isSome

/-- Whether the text after the scheme of a URI opens an authority: two slashes without a third one.
This is asked of the text as written, since a host such as `localhost` leaves no trace in the
URI. -/
def writesAuthority (text : String) : Bool :=
  match ((Text.trimStart text.toList).dropWhile (· != ':')).drop 1 with
  | '/' :: '/' :: '/' :: _ => false
  | '/' :: '/' :: _ => true
  | _ => false

/-- The path on this host that a file URI without an authority names. -/
def localPath? (text : String) : Option Path := do
  let u ← parse? text
  if u.scheme ≠ fileScheme ∨ u.hasAuthority ∨ writesAuthority text then none
  return filePath u.segments

end Uri

end FederatedCatalog
