import FederatedCatalog.FileSystem.Basic
import FederatedCatalog.Message.Status

/-!
# What a server writes back

An answer is a sequence of messages: text frames, and at most one file whose bytes are streamed
without a frame.
-/

namespace FederatedCatalog

/-- One unit of an answer. -/
inductive Message where
  /-- A text frame. -/
  | frame (text : String)
  /-- The first `size` bytes of the file at a path, as they are. -/
  | file (path : Path) (size : UInt64)
  deriving Repr, DecidableEq

namespace Message

/-- The frame that reports success. -/
def success : Message := .frame Status.success.render

/-- The frame that reports a rejection. -/
def rejected (r : Rejection) : Message := .frame (Status.error r).render

/-- The frame that gives the number of resources in an answer. -/
def resultSize (n : Nat) : Message := .frame (Status.resultSize n).render

/-- The text of a frame. -/
def text? : Message → Option String
  | frame text => some text
  | file _ _ => none

end Message

end FederatedCatalog
