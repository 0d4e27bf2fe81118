import FederatedCatalog.FileSystem.Basic
import FederatedCatalog.Uri.Percent

/-!
# Paths of file URIs

The path of a file URI is a list of segments. Reading it resolves `.` and `..`, turns a drive letter
at the front into its form with a colon, and never climbs above a drive letter. The path on the host
is made of the decoded segments.
-/

namespace FederatedCatalog.Uri

/-- The characters that are skipped wherever they stand in a URI. -/
def isIgnored (c : Char) : Bool := c == '\t' || c == '\n' || c == '\r'

/-- The characters that count. -/
def visible (cs : List Char) : List Char := cs.filter fun c => !isIgnored c

/-- Drop skipped characters at the front. -/
def skipIgnored (cs : List Char) : List Char := cs.dropWhile isIgnored

/-- A letter and a colon or a bar. -/
def isDriveLetter : List Char → Bool
  | [c, mark] => c.isAlpha && (mark == ':' || mark == '|')
  | _ => false

/-- The segment that stays in its place, possibly with an encoded dot. -/
def isSingleDot (cs : List Char) : Bool :=
  cs == ['.'] || cs.map Char.toLower == ['%', '2', 'e']

/-- The segment that goes up, possibly with encoded dots. -/
def isDoubleDot (cs : List Char) : Bool :=
  let dot := ['.']
  let encoded := ['%', '2', 'e']
  let cs := cs.map Char.toLower
  cs == dot ++ dot || cs == dot ++ encoded || cs == encoded ++ dot || cs == encoded ++ encoded

/-- What follows a drive letter with a colon when a skipped character parts the two. -/
def afterBrokenDrive? (raw : List Char) : Option (List Char × List Char) :=
  match visible raw, (raw.dropWhile (· != ':')).drop 1 with
  | c :: ':' :: d :: rest, next :: _ =>
    if c.isAlpha && isIgnored next then some ([c, ':'], d :: rest) else none
  | _, _ => none

/-- Go up by one segment, but not above the root or a drive letter; the last segment comes first. -/
def goUp : List (List Char) → List (List Char)
  | segment :: parent :: rest =>
    if isDriveLetter segment then segment :: parent :: rest else parent :: rest
  | segments => segments

/-- The segments of a path while it is read, and whether a drive letter took the host away. -/
structure PathState where
  /-- The segments so far, the last one first. -/
  segments : List (List Char)
  /-- Whether a drive letter at the front made the host void. -/
  dropsHost : Bool := false

/-- Take one segment as it was written. The last segment of a path leaves an empty segment behind
when it only moves. -/
def PathState.take (state : PathState) (isLast : Bool) (raw : List Char) : PathState :=
  let segment := visible raw
  let close (segments : List (List Char)) : PathState :=
    { state with segments := if isLast then [] :: segments else segments }
  if isDoubleDot segment then close (goUp state.segments)
  else if isSingleDot segment then close state.segments
  else if state.segments = [[]] then
    if isDriveLetter segment then ⟨(segment.take 1 ++ [':']) :: state.segments, true⟩
    else match afterBrokenDrive? raw with
      | some (drive, rest) => { state with segments := rest :: drive :: state.segments }
      | none => { state with segments := segment :: state.segments }
  else { state with segments := segment :: state.segments }

/-- Take the segments of a path one after the other. -/
def PathState.takeAll (state : PathState) : List (List Char) → PathState
  | [] => state
  | [raw] => state.take true raw
  | raw :: rest => (state.take false raw).takeAll rest

/-- Drop the empty segments at the front, but keep one segment. -/
def rooted (segments : List (List Char)) : List (List Char) :=
  match segments.dropWhile List.isEmpty with
  | [] => [[]]
  | kept => kept

/-- Whether a byte is an ASCII letter. -/
def isLetterByte (b : UInt8) : Bool := (0x41 ≤ b && b ≤ 0x5A) || (0x61 ≤ b && b ≤ 0x7A)

/-- The path on the host that segments stand for. A path that ends in a drive letter gets a slash at
its end. -/
def filePath (segments : List (List Char)) : Path :=
  let bytes := segments.flatMap fun segment => 0x2F :: percentDecode (utf8Bytes segment)
  match bytes.reverse with
  | mark :: letter :: _ :: _ =>
    if isLetterByte letter && (mark == 0x3A || mark == 0x7C) then bytes ++ [0x2F] else bytes
  | _ => bytes

end FederatedCatalog.Uri
