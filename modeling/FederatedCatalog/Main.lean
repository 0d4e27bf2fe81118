import Std.Sync.Mutex
import Std.Sync.Semaphore
import FederatedCatalog.CommandLine
import FederatedCatalog.Network
import FederatedCatalog.Server.Admission
import FederatedCatalog.Server.Gossip
import FederatedCatalog.Server.GossipSchedule

/-!
# The program

Reads the command line, binds a listener and serves connections while it gossips with the servers it
learns of. The state of the server is behind a lock that is held only while a request is processed;
waiting for peers and clients happens outside of it.
-/

namespace FederatedCatalog.Program

open Std.Async

/-- A server that runs. -/
structure Running where
  /-- The settings. -/
  settings : Settings
  /-- The state of the server. -/
  server : Std.Mutex Server
  /-- The record of admitted connections. -/
  limiter : Std.Mutex Limiter
  /-- The workers that are free. -/
  workers : Std.Semaphore

/-- The time limit for single steps on a connection. -/
def Running.limit (r : Running) : Network.Limit :=
  1000 * min r.settings.socketTimeout.toNat 1000000000

/-- The files that a request is about: the one that is to be shared, or that is to be handed out and
is listed. -/
def look (s : Server) (text : String) : IO Network.Sight := do
  match Call.read s.secret text with
  | .ok (.share _ path) => Network.inspect path
  | .ok (.fetch t path) =>
    if s.catalog.entries.any (·.sameLocation t) then Network.inspect path else return {}
  | _ => return {}

/-- The connector that answers as recorded. -/
def recorded (answers : List (Peer × PeerAnswer)) : Connector := fun peer _ =>
  (answers.lookup peer).getD .crashed

/-- Serve what was received, with these answers of peers, and keep the state that results. -/
def Running.advance (r : Running) (files : Network.Sight) (source : Source)
    (answers : List (Peer × PeerAnswer)) : Async Served := do
  r.server.atomically do
    let served := (← get).serve files.seen files.opened (recorded answers) source {}
    set served.server
    return served

/-- Serve a connection. A request that is to be relayed is served a second time when the peers have
answered; the first time changes nothing. -/
def Running.handle (r : Running) (client : Network.Client) : Async Unit := do
  let source ← Network.receiveFrame client r.limit
  let server ← r.server.atomically get
  let files ← match (Frame.read source).1 with
    | .ok (some text) => look server text
    | _ => pure {}
  let first ← r.advance files source []
  let served ←
    if first.sent.isEmpty then pure first
    else do
      let answers ← Async.concurrentlyAll <| first.sent.toArray.map fun dispatch => do
        return (dispatch.peer, ← Network.ask r.limit dispatch.peer dispatch.request)
      r.advance files source answers.toList
  if ← Network.sendFrom client r.limit served.sink.accepted 0 then
    let _ ← Network.within r.limit client.shutdown

/-- Serve a connection when a worker is free. -/
def Running.work (r : Running) (client : Network.Client) : Async Unit := do
  await (← r.workers.acquire)
  try r.handle client
  catch failure => IO.eprintln failure
  finally r.workers.release

/-- Take connections for ever. One that comes too soon after another from its address is dropped. -/
partial def Running.receive (r : Running) (listener : TCP.Socket.Server) : Async Unit := do
  try
    let client ← listener.accept
    let (source, _) := Network.ofSocketAddress (← client.getPeerName)
    let now ← IO.monoMsNow
    let admitted ← r.limiter.atomically (modifyGet fun l => l.arrive source (Int64.ofNat now))
    if admitted then background (r.work client)
  catch failure =>
    IO.eprintln failure
    Network.pause 100
  r.receive listener

/-- Make one round of gossip. -/
def Running.gossip (r : Running) : Async Unit := do
  let directory := (← r.server.atomically get).directory
  let choice ← IO.rand 0 (directory.others.length - 1)
  match directory.target? fun _ => choice with
  | none => return
  | some peer =>
    let answer ← Network.ask r.limit peer directory.gossip
    r.server.atomically <| modify fun s =>
      { s with directory := (s.directory.conclude peer answer).directory }

/-- Gossip for ever, the next time at the given tick. -/
partial def Running.gossipFrom (r : Running) (interval tick : Nat) : Async Unit := do
  Network.pause (tick - (← IO.monoMsNow))
  let start ← IO.monoMsNow
  r.gossip
  r.gossipFrom interval (GossipSchedule.nextTick interval tick start)

/-- Bind a listener and serve. -/
def serve (settings : Settings) : Async UInt32 := do
  match settings.bindAddress with
  | .error failure =>
    IO.eprintln failure.message
    return 1
  | .ok (address, port) =>
    let listener ← TCP.Socket.Server.mk
    listener.bind (Network.socketAddress (Network.toIpAddr address) port)
    listener.listen 1024
    let (_, port) := Network.ofSocketAddress (← listener.getSockName)
    let self : Peer := ⟨settings.advertisedHostname, port⟩
    let running : Running :=
      { settings
        server := ← Std.Mutex.new (Server.start settings.secret self)
        limiter := ← Std.Mutex.new (Limiter.ofMillis (1000 * settings.connectionInterval.toNat))
        workers := ← Std.Semaphore.new settings.maxWorkers.toNat }
    IO.println ("Starting " ++ CommandLine.program ++ " " ++ CommandLine.version ++ " on " ++
      address.textWithPort port)
    IO.println ("Advertised as " ++ self.origin)
    IO.println ("Using secret: " ++ settings.secret)
    if settings.debug then IO.println "Debug logging enabled"
    (← IO.getStdout).flush
    let interval := 1000 * GossipSchedule.effectiveSecs settings.exchangeInterval.toNat
    background (running.gossipFrom interval ((← IO.monoMsNow) + interval))
    running.receive listener
    return 0

/-- The environment variables of the settings. -/
def environment : IO (String → Option String) := do
  let values ← Setting.all.filterMapM fun s => do
    return (← IO.getEnv s.environmentVariable).map (s.environmentVariable, ·)
  return fun name => values.lookup name

/-- A secret from the random numbers of the host. -/
def drawSecret : IO String := do
  let bytes ← IO.getRandomBytes (USize.ofNat (8 * Settings.secretLength))
  return Settings.drawSecret fun i =>
    Frame.readLength (bytes.extract (8 * i) (8 * i + 8))

end FederatedCatalog.Program

open FederatedCatalog in
/-- Run the program. -/
def main (words : List String) : IO UInt32 := do
  match CommandLine.read words (← Program.environment) with
  | .error .version =>
    IO.print CommandLine.versionText
    return 0
  | .error .help =>
    IO.print CommandLine.helpText
    return 0
  | .error stop =>
    IO.eprintln ("error: " ++ stop.reason)
    return 2
  | .ok line => (Program.serve (line.toSettings (← Program.drawSecret))).block
