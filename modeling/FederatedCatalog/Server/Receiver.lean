import FederatedCatalog.Server.Admission
import FederatedCatalog.Server.Connection

/-!
# Receiving connections

Each incoming connection first passes the admission of its source. One that is turned away is closed
at once; an admitted one is served. As every connection is served to its end before the next one
arrives, the number of workers never matters.
-/

namespace FederatedCatalog

/-- A connection that comes in. -/
structure Connection where
  /-- The address it comes from. -/
  source : IpAddress
  /-- The time, in milliseconds. -/
  time : Int64
  /-- The bytes that the other side sends. -/
  input : Source
  /-- The bytes that the other side accepts. -/
  output : Sink := {}

/-- A server together with its record of admissions. -/
structure Receiver where
  /-- The record of admissions. -/
  limiter : Limiter
  /-- The server. -/
  server : Server

namespace Receiver

/-- Take a connection. What was written to it is returned. -/
def accept (r : Receiver) (fs : FileSystem) (connector : Connector) (c : Connection) :
    ByteArray × Receiver :=
  match r.limiter.arrive c.source c.time with
  | (false, limiter) => (.empty, { r with limiter })
  | (true, limiter) =>
    let served := r.server.serve fs fs connector c.input c.output
    (served.sink.accepted, { limiter, server := served.server })

end Receiver

end FederatedCatalog
