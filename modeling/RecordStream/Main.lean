import RecordStream.Command.Receive
import RecordStream.Command.Send
import Std.Async.DNS
import Std.Async.TCP
import Std.Time.DateTime.Timestamp

/-!
The two programs on a real network. Everything that is decided is decided elsewhere; here sockets
are opened, bytes are passed on, and what comes back is reported. The name under which the program
was started tells which of the two it is.
-/

namespace RecordStream.Main

open Std.Net (IPAddr SocketAddress)
open Std.Async.TCP (Socket.Client Socket.Server)

/-- A text for the terminal; a lone surrogate appears as a replacement character. -/
def terminalText (t : Text) : String :=
  String.ofList (t.map fun c => if c.isSurrogate then '\uFFFD' else Char.ofNat c.val)

def reasonOf (e : IO.Error) : Text := Text.ofString (toString e)

/-- Seconds since some moment in the past. -/
def clock : IO Binary64 := do
  return Binary64.ofQuotient false (← IO.monoNanosNow) 1000000000

def surroundings : IO Command.Surroundings := do
  let now ← Std.Time.Timestamp.now
  let milliseconds := now.toMillisecondsSinceUnixEpoch.val
  return { terminal := ← (← IO.getStderr).isTty
           moment := ⟨Int.fdiv milliseconds 1000, Int.fmod milliseconds 1000⟩ }

def finish {Fault : Type} (o : Command.Outcome Fault) (message : Fault → Text) : IO UInt32 := do
  IO.print (terminalText o.stdout)
  IO.eprint (terminalText o.stderr)
  match o.ending with
  | .exit code | .stop code => return UInt32.ofNat code
  | .crash fault =>
    IO.eprintln (terminalText (message fault))
    return 1

def addressOf (ip : IPAddr) (port : UInt16) : SocketAddress :=
  match ip with
  | .v4 addr => .v4 { addr, port }
  | .v6 addr => .v6 { addr, port }

def endpointOf : SocketAddress → Endpoint
  | .v4 a => ⟨Text.ofString (toString a.addr), a.port.toNat⟩
  | .v6 a => ⟨Text.ofString (toString a.addr), a.port.toNat⟩

def resolve (host : Text) (port : Port) : IO (List SocketAddress) := do
  match port with
  | .service name => throw (IO.userError (terminalText ("unknown service " ++ name)))
  | .number n =>
    if n < 0 ∨ 65535 < n then throw (IO.userError "port must be 0-65535")
    let found ← (Std.Async.DNS.getAddrInfo (terminalText host) "").block
    return found.toList.map fun ip => addressOf ip (UInt16.ofNat n.toNat)

def dial (target : Target) : IO (Except Text Socket.Client) := do
  try
    let mut reason : Text := "no address"
    for address in ← resolve target.host target.port do
      try
        let socket ← Socket.Client.mk
        (socket.connect address).block
        return .ok socket
      catch e => reason := reasonOf e
    return .error reason
  catch e => return .error (reasonOf e)

/-- Sends so many records from an index on, after so many bytes. -/
def sendRecords (socket : Socket.Client) (e : Emitter) (index bytesSent : Nat) :
    Nat → IO (Except RunFault Nat)
  | 0 => return .ok bytesSent
  | count + 1 => do
    let s := e.sendRecord index {}
    match s.result with
    | .error fault => return .error fault
    | .ok sent =>
      try
        (socket.send ⟨s.channel.taken.toArray⟩).block
      catch fault => return .error (.send index ⟨0, sent, some (reasonOf fault)⟩)
      sendRecords socket { e with codec := s.codec } (index + 1) (bytesSent + sent) count

def emit (job : Job) : IO Emission := do
  match (connect job.target (.refused [])).dialled with
  | [] => return Emission.emit job (.refused []) {} ⟨.zero, .zero⟩
  | d :: _ =>
    match ← dial d.target with
    | .error reason => return Emission.emit job (.refused reason) {} ⟨.zero, .zero⟩
    | .ok socket =>
      let c := connect job.target (.connected (endpointOf (← socket.getSockName)))
      let start ← clock
      let sent ← sendRecords socket (Emission.emitterFor job) 0 0 job.count.toNat
      let watch : Stopwatch := ⟨start, ← clock⟩
      socket.shutdown.block
      let result := sent.map fun bytesSent =>
        { messages := job.count, bytesSent, elapsed := .float watch.elapsed : EmitStats }
      return Emission.conclude job c result {} watch

def send (around : Command.Surroundings) (arguments : List Text) : IO UInt32 := do
  match Command.Send.plan around arguments with
  | .inl outcome => finish outcome Command.Send.Crash.message
  | .inr task => finish (task.report around (← emit task.job)) Command.Send.Crash.message

/-- Reads a connection to its end; `done` holds the last segment first. -/
partial def receiveSegments (socket : Socket.Client) (bufferSize : UInt64) (done : List Segment) :
    IO (List Segment) := do
  let next ← try
      match ← (socket.recv? bufferSize).block with
      | some bytes => pure (some (Segment.data bytes.toList))
      | none => pure none
    catch e => return (.fails (reasonOf e) :: done).reverse
  match next with
  | some segment => receiveSegments socket bufferSize (segment :: done)
  | none => return done.reverse

def addressFor (l : Listener) : IO (List SocketAddress) := do
  match l.host, l.port with
  | .value host, .value port => resolve host (.number port)
  | _, _ => return []

def listen (l : Listener) : IO (Except Text (Socket.Server × Nat)) := do
  try
    let server ← Socket.Server.mk
    match ← addressFor l with
    | [] => return .error "no address"
    | address :: _ =>
      server.bind address
      server.listen (UInt32.ofNat l.backlog)
      return .ok (server, (endpointOf (← server.getSockName)).port)
  catch e => return .error (reasonOf e)

def accept (server : Socket.Server) : IO (Except Text (Socket.Client × Endpoint)) := do
  try
    let socket ← server.accept.block
    return .ok (socket, endpointOf (← socket.getPeerName))
  catch e => return .error (reasonOf e)

def visit (l : Listener) : IO Command.Receive.Visit := do
  let nothing (listening : ListenOutcome) (reason : Text) : Command.Receive.Visit :=
    { listening, accepted := .error reason, segments := [], watch := ⟨.zero, .zero⟩ }
  match l.fault? with
  | some fault => return nothing (.unusable fault) fault.message
  | none =>
    match ← listen l with
    | .error reason => return nothing (.refused reason) reason
    | .ok (server, port) =>
      match ← accept server with
      | .error reason => return nothing (.listening port) reason
      | .ok (socket, peer) =>
        let start ← clock
        let segments ← receiveSegments socket 65536 []
        return { listening := .listening port
                 accepted := .ok peer
                 segments
                 watch := ⟨start, ← clock⟩ }

def receive (around : Command.Surroundings) (arguments : List Text) : IO UInt32 := do
  match Command.Receive.plan around arguments with
  | .inl outcome => finish outcome Command.Receive.Crash.message
  | .inr task =>
    let r := Command.Receive.serve around task (← visit task.listener)
    finish r.outcome Command.Receive.Crash.message

def start (name : String) (arguments : List String) : IO UInt32 := do
  let around ← surroundings
  let arguments := arguments.map Text.ofString
  if Text.ofString name = Command.Receive.program then receive around arguments
  else send around arguments

end RecordStream.Main

def main (arguments : List String) : IO UInt32 := do
  let name := (← IO.appPath).fileName.getD ""
  RecordStream.Main.start name arguments
