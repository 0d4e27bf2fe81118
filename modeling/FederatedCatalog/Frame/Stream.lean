import FederatedCatalog.FileSystem.Basic
import FederatedCatalog.Frame.Codec

/-!
# Streams of file bytes

The bytes of a file travel without a frame; both ends know their number. They are written and read
in chunks of at most 64 KiB.
-/

namespace FederatedCatalog.Frame

/-- The most bytes that are written or read at once. -/
def chunkSize : Nat := 64 * 1024

/-- Write the bytes of a file from `sent` to below `limit` in chunks of `chunk + 1` bytes. The
answer counts the bytes that were written when all were accepted. -/
def writeChunks (bytes : ByteArray) (chunk limit sent : Nat) (sink : Sink) :
    Except Failure Nat × Sink :=
  if sent < limit then
    let next := min (sent + chunk + 1) limit
    let (done, sink) := sink.write (bytes.extract sent next)
    if done then writeChunks bytes chunk limit next sink else (.error .timedOut, sink)
  else (.ok sent, sink)
termination_by limit - sent
decreasing_by omega

/-- Stream the first `size` bytes of the file at a path. A file that is shorter is streamed as far
as it goes and then reported, since a receiver cannot tell. -/
def writeFile (fs : FileSystem) (sink : Sink) (path : Path) (size : Nat) :
    Except Failure Nat × Sink :=
  match fs path with
  | .absent cause => (.error (.io cause), sink)
  | .directory => (if size = 0 then .ok 0 else .error (.io .isADirectory), sink)
  | .file content =>
    match writeChunks content.bytes (chunkSize - 1) (min size content.bytes.size) 0 sink with
    | (.ok sent, sink) =>
      (if sent < size then .error (.fileShrank path.display sent size) else .ok sent, sink)
    | (.error failure, sink) => (.error failure, sink)

/-- Read exactly `size` bytes. -/
def readBytes (source : Source) (size : Nat) : Except Failure ByteArray × Source :=
  let (gathered, source) := source.gather (chunkSize - 1) size .empty
  (if gathered.missing = 0 then .ok gathered.bytes
    else .error (atEnd source.ending (.streamEnded gathered.missing size)), source)

end FederatedCatalog.Frame
