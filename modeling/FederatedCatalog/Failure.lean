import FederatedCatalog.Text.Utf8

/-!
# Failures

What can go wrong inside a server or on a connection, by cause, with the text that reports it. A
request that a server turns down is no failure: it is answered with a `Rejection`.
-/

namespace FederatedCatalog

/-- The families of failures. -/
inductive Failure.Kind where
  | configuration
  | protocol
  | transport
  | io
  | serialization
  | concurrency
  deriving Repr, DecidableEq, Inhabited

namespace Failure.Kind

/-- The identifier of a family. -/
def identifier : Kind → String
  | configuration => "configuration_error"
  | protocol => "protocol_error"
  | transport => "transport_error"
  | io => "io_error"
  | serialization => "serialization_error"
  | concurrency => "concurrency_error"

/-- The words that open the text of every failure of a family. -/
def heading : Kind → String
  | configuration => "Configuration error"
  | protocol => "Protocol error"
  | transport => "Transport error"
  | io => "I/O error"
  | serialization => "Serialization error"
  | concurrency => "Concurrency error"

/-- The full text of a failure with this detail. -/
def describe (kind : Kind) (detail : String) : String := kind.heading ++ ": " ++ detail

/-- Whether a failure of this family wraps an error of another layer. -/
def hasSource : Kind → Bool
  | io | serialization => true
  | _ => false

end Failure.Kind

/-- Errors of the operating system that the server can meet. -/
inductive Failure.IoCause where
  | unexpectedEof
  | notFound
  | notADirectory
  | isADirectory
  | nameTooLong
  | invalidInput
  deriving Repr, DecidableEq, Inhabited

/-- The two ways of taking the lock of the catalog. -/
inductive Failure.LockMode where
  | read
  | write
  deriving Repr, DecidableEq, Inhabited

/-- A failure, by cause. -/
inductive Failure where
  /-- The listen address is no IP address. -/
  | listenAddress (text : String)
  /-- A text is too long for a frame. -/
  | frameTooLarge (bytes : Nat)
  /-- A frame announces more bytes than are allowed. -/
  | messageTooLarge (bytes : Nat)
  /-- The payload of a frame is no text. -/
  | frameNotUtf8 (fault : Text.Utf8.Fault)
  /-- A successful answer to a fetch ends before its description. -/
  | missingDescription
  /-- The description in the answer to a fetch cannot be read. -/
  | badDescription (frame : String)
  /-- A read or a write took too long. -/
  | timedOut
  /-- A stream ended before all announced bytes had arrived. -/
  | streamEnded (outstanding size : Nat)
  /-- A file turned out shorter than announced. -/
  | fileShrank (path : String) (sent size : Nat)
  /-- A peer cannot be reached. -/
  | unreachable (peer : String)
  /-- An error of the operating system. -/
  | io (cause : Failure.IoCause)
  /-- A lock was poisoned by a crash of its holder. -/
  | poisoned (mode : Failure.LockMode)
  deriving Repr, DecidableEq, Inhabited

namespace Failure

/-- The words of the operating system for an error. -/
def IoCause.text : IoCause → String
  | unexpectedEof => "early eof"
  | notFound => "No such file or directory (os error 2)"
  | notADirectory => "Not a directory (os error 20)"
  | isADirectory => "Is a directory (os error 21)"
  | nameTooLong => "File name too long (os error 36)"
  | invalidInput => "file name contained an unexpected NUL byte"

/-- The word for a way of taking a lock. -/
def LockMode.text : LockMode → String
  | read => "read"
  | write => "write"

/-- The family of a failure. -/
def kind : Failure → Kind
  | listenAddress _ => .configuration
  | frameTooLarge _ | messageTooLarge _ | frameNotUtf8 _ | missingDescription | badDescription _ =>
    .protocol
  | timedOut | streamEnded _ _ | fileShrank _ _ _ | unreachable _ => .transport
  | io _ => .io
  | poisoned _ => .concurrency

/-- The text of a failure without its heading. -/
def detail : Failure → String
  | listenAddress text => "Invalid listen address " ++ text ++ ": invalid IP address syntax"
  | frameTooLarge n => "Frame too large: " ++ toString n ++ " bytes"
  | messageTooLarge n => "Message too large: " ++ toString n ++ " bytes"
  | frameNotUtf8 fault => "Frame is not UTF-8: " ++ fault.text
  | missingDescription => "Missing resource frame"
  | badDescription frame => "Bad resource frame: " ++ frame
  | timedOut => "Socket operation timed out"
  | streamEnded outstanding size =>
    "Stream ended with " ++ toString outstanding ++ " of " ++ toString size ++ " bytes outstanding"
  | fileShrank path sent size =>
    "File " ++ path ++ " shrank to " ++ toString sent ++ " of " ++ toString size ++
      " advertised bytes"
  | unreachable peer => "Failed to connect to " ++ peer
  | io cause => cause.text
  | poisoned mode =>
    "RwLock " ++ mode.text ++ " fail poisoned lock: another task failed inside"

/-- The full text of a failure. -/
def message (f : Failure) : String := f.kind.describe f.detail

end Failure

end FederatedCatalog
