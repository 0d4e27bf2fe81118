import FederatedCatalog.Failure
import FederatedCatalog.Frame.Sink
import FederatedCatalog.Frame.Source
import FederatedCatalog.Text.Utf8

/-!
# Frames

A frame is the length of a text in four bytes, the highest first, and the UTF-8 bytes of the text.
No frame holds more than 10 MiB. Reading at the very end of a connection gives no frame, and so does
a connection that ends inside the length.
-/

namespace FederatedCatalog.Frame

/-- The most bytes that a frame may hold. -/
def maxLength : Nat := 10 * 1024 * 1024

/-- Four bytes for a number below `2 ^ 32`, the highest first. -/
def lengthBytes (n : Nat) : ByteArray :=
  ⟨#[UInt8.ofNat (n >>> 24), UInt8.ofNat (n >>> 16), UInt8.ofNat (n >>> 8), UInt8.ofNat n]⟩

/-- The number that bytes write, the highest first. -/
def readLength (bytes : ByteArray) : Nat := bytes.data.foldl (fun n b => n * 256 + b.toNat) 0

/-- The frame of a text. -/
def encode (text : String) : ByteArray := lengthBytes text.utf8ByteSize ++ text.toByteArray

/-- Write the frame of a text. A text that is too long is refused before anything is written. -/
def write (sink : Sink) (text : String) : Except Failure Unit × Sink :=
  if maxLength < text.utf8ByteSize then (.error (.frameTooLarge text.utf8ByteSize), sink)
  else
    let (done, sink) := sink.write (encode text)
    (if done then .ok () else .error .timedOut, sink)

/-- What the want of bytes means at the end of a source. -/
def atEnd (ending : Ending) (failure : Failure) : Failure :=
  match ending with
  | .closed => failure
  | .silent => .timedOut

/-- Read exactly `n` bytes of a frame. -/
def readExactly (source : Source) (n : Nat) : Except Failure ByteArray × Source :=
  let (gathered, source) := source.gather n n .empty
  (if gathered.missing = 0 then .ok gathered.bytes
    else .error (atEnd source.ending (.io .unexpectedEof)), source)

/-- Read the payload of a frame; nothing at the end of a closed connection. -/
def readPayload (source : Source) : Except Failure (Option ByteArray) × Source :=
  match readExactly source 4 with
  | (.error (.io .unexpectedEof), source) => (.ok none, source)
  | (.error failure, source) => (.error failure, source)
  | (.ok header, source) =>
    let length := readLength header
    if maxLength < length then (.error (.messageTooLarge length), source)
    else
      let (payload, source) := readExactly source length
      (payload.map some, source)

/-- The text of a payload. -/
def textOf (payload : ByteArray) : Except Failure String :=
  (Text.Utf8.decode payload).mapError .frameNotUtf8

/-- Read the text of a frame; nothing at the end of a closed connection. -/
def read (source : Source) : Except Failure (Option String) × Source :=
  match readPayload source with
  | (.ok (some payload), source) => ((textOf payload).map some, source)
  | (.ok none, source) => (.ok none, source)
  | (.error failure, source) => (.error failure, source)

end FederatedCatalog.Frame
