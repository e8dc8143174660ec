import RecordStream.Binary64.Places
import RecordStream.Logging.Line
import RecordStream.Transfer.Connection
import RecordStream.Transfer.Reception
import RecordStream.Transfer.Stats
import RecordStream.Wire.Codec

/-!
Receiving records. A sink reads connections one after the other to their end, decodes what
arrives, drops what has no message, and counts and possibly keeps the rest. A connection leaves
nothing behind for the next one but the objects kept.
-/

namespace RecordStream

inductive ReceiveFault (e : Encoding)
  | decode (fault : DecodeFault e)
  | stream (reason : Text)
  /-- An object to be dropped is nested too deep to be shown. -/
  | tooDeep

def ReceiveFault.message {e : Encoding} : ReceiveFault e → Text
  | .decode fault => fault.message
  | .stream reason => reason
  | .tooDeep => Value.ShowFault.depth.message

structure Sink where
  encoding : Encoding
  requireMessage : Bool := true
  keep : Bool := false
  bufferSize : Nat := 65536
  /-- The objects kept, in the order in which they came. -/
  records : List Value := []

namespace Sink

def log (level : Int) (message : Text) : LogLine := ⟨level, "sink", message⟩

/-- Does an object count as a record? -/
def accepts (s : Sink) (v : Value) : Bool := !s.requireMessage || v.hasKey "message"

/-- An object that is not accepted has to be shown in the log. -/
def canHandle (s : Sink) (v : Value) : Bool := s.accepts v || !v.tooDeep

def droppingLine (v : Value) : LogLine :=
  log Level.warning ("Dropping " ++ v.quoted ++ ": message field required")

def receivedLine (s : SinkStats) (watch : Stopwatch) : LogLine :=
  log Level.info ("Received " ++ Decimal.ofInt s.records ++ " records ("
    ++ Decimal.ofInt s.bytesReceived ++ " bytes, " ++ Decimal.ofInt s.dropped ++ " dropped) in "
    ++ watch.elapsed.toPlaces 3 ++ " s")

def connectionLine (peer : Endpoint) : LogLine :=
  log Level.info ("Connection from " ++ peer.text)

structure Consumption (e : Encoding) where
  result : Except (ReceiveFault e) SinkStats
  sink : Sink
  closed : Nat
  logs : List LogLine

def keepAccepted (s : Sink) (objects : List Value) : Sink :=
  if s.keep then { s with records := s.records ++ objects.filter s.accepts } else s

def statsOf (s : Sink) (objects : List Value) (bytesReceived : Nat) (watch : Stopwatch) :
    SinkStats where
  records := objects.countP s.accepts
  dropped := objects.countP fun v => !s.accepts v
  bytesReceived := bytesReceived
  elapsed := .float watch.elapsed

/-- Why the stream was not read to a good end: an object that cannot be handled, else a faulty
frame, else the failure of the stream, else the bytes left over. -/
def faultOf (s : Sink) {e : Encoding} (t : Decoder.Taken e.framing) (ending : StreamEnd) :
    Option (ReceiveFault e) :=
  if t.objects.all s.canHandle then
    match t.decodeFault?, ending with
    | some fault, _ => some (.decode fault)
    | none, .failed reason => some (.stream reason)
    | none, .closed =>
      if t.decoder.pending = 0 then none else some (.decode (.cut t.decoder.pending))
  else some .tooDeep

/-- Reads a connection to its end. -/
def consume (s : Sink) (segments : List Segment) (watch : Stopwatch) : Consumption s.encoding :=
  let r := Reception.ofSegments s.bufferSize segments
  let t := (Decoder.new s.encoding.framing).drainChunks r.chunks
  let handled := t.objects.takeWhile s.canHandle
  let sink := s.keepAccepted handled
  let drops := (handled.filter fun v => !s.accepts v).map droppingLine
  match s.faultOf t r.ending with
  | some fault => { result := .error fault, sink, closed := 0, logs := drops }
  | none =>
    let stats := s.statsOf t.objects r.bytes.length watch
    { result := .ok stats, sink, closed := 0, logs := drops ++ [receivedLine stats watch] }

/-- Accepts a connection from a peer, reads it to its end and closes it whatever happened. -/
def serveOne (s : Sink) (peer : Endpoint) (segments : List Segment) (watch : Stopwatch) :
    Consumption s.encoding :=
  let c := s.consume segments watch
  { c with closed := c.closed + 1, logs := connectionLine peer :: c.logs }

/-- Waits for a connection. If none could be accepted for some reason there is nothing to close. -/
def serveNext (s : Sink) (accepted : Except Text Endpoint) (segments : List Segment)
    (watch : Stopwatch) : Consumption s.encoding :=
  match accepted with
  | .error reason => { result := .error (.stream reason), sink := s, closed := 0, logs := [] }
  | .ok peer => s.serveOne peer segments watch

end Sink

structure Listener where
  host : Given Text := .value "127.0.0.1"
  port : Given Int := .value 10053
  /-- How many connections may wait to be accepted. -/
  backlog : Nat := 1
deriving DecidableEq

/-- Why a host and a port are no address. The system is not asked then. -/
inductive AddressFault
  | blankHost
  | blankPort
  /-- The host cannot be written in the alphabet of host names. -/
  | hostName
  | nullInHost
  | portRange
deriving DecidableEq

def AddressFault.message : AddressFault → Text
  | .blankHost => "str, bytes or bytearray expected, not list"
  | .blankPort => "'list' object cannot be interpreted as an integer"
  | .hostName => "encoding of hostname failed"
  | .nullInHost => "host name must not contain null character"
  | .portRange => "bind(): port must be 0-65535."

/-- The fault of an address, as far as it shows without a table of characters: that a host cannot be
written is only seen at a surrogate. The host is looked at first. -/
def Listener.fault? (l : Listener) : Option AddressFault :=
  match l.host, l.port with
  | .blank, _ => some .blankHost
  | .value host, port =>
    if host.hasSurrogate then some .hostName
    else if host.any (·.val = 0) then some .nullInHost
    else
      match port with
      | .blank => some .blankPort
      | .value port => if 0 ≤ port ∧ port ≤ 65535 then none else some .portRange

inductive ListenOutcome
  /-- What was given is no address. -/
  | unusable (fault : AddressFault)
  | refused (reason : Text)
  | listening (port : Nat)
deriving DecidableEq

def Listener.line (l : Listener) (port : Nat) : LogLine :=
  Sink.log Level.info ("Listening on " ++ l.host.text id ++ ":" ++ Decimal.ofNat port)

end RecordStream
