import FederatedCatalog.Json.Parser
import FederatedCatalog.Json.Printer
import FederatedCatalog.Rejection

/-!
# Status and count frames

Every answer opens with a status frame, and an answer with resources closes with their number. Here
is their text and how a client reads it back.
-/

namespace FederatedCatalog

/-- A frame that is no resource. -/
inductive Status where
  | success
  | error (rejection : Rejection)
  | resultSize (count : Nat)
  deriving Repr, DecidableEq, Inhabited

namespace Status

/-- The object of a frame. -/
def toJson : Status → Json
  | success => .object [("response", .string "success")]
  | error rejection =>
    .object [("errorMessage", .string rejection.message), ("response", .string "error")]
  | resultSize count => .object [("resultSize", Json.ofNat count)]

/-- The text of a frame. -/
def render (s : Status) : String := s.toJson.render

/-- The text member of an object. -/
def member? (v : Json) (key : String) : Option String := (v.get? key).bind Json.string?

/-- Whether a frame reports success. -/
def isSuccess (frame : String) : Bool :=
  ((Json.parse? frame).bind (member? · "response")) == some "success"

/-- The message of an error frame. -/
def errorMessage? (frame : String) : Option String := do
  let v ← Json.parse? frame
  guard (member? v "response" == some "error")
  member? v "errorMessage"

/-- The number in a count frame. -/
def resultSize? (frame : String) : Option UInt64 := do
  (← (← Json.parse? frame).get? "resultSize").natural?

end Status

end FederatedCatalog
