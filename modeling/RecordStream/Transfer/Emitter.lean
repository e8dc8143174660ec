import RecordStream.Transfer.Channel
import RecordStream.Transfer.Stats
import RecordStream.Wire.Codec

/-!
Sending records one after the other. A record is written completely before the next one is built,
and the buffer of the codec is empty again after each, unless the channel goes on holding it.
-/

namespace RecordStream

inductive RunFault
  | negativeCount (count : Int)
  | index (fault : Record.IndexFault)
  | encode (fault : EncodeFault)
  | send (messages : Nat) (fault : SendFault)
  /-- Sending failed, and the buffer could not be emptied because the channel holds it. -/
  | held
deriving DecidableEq

def RunFault.message : RunFault → Text
  | .negativeCount count => "count must be >= 0, got " ++ Decimal.ofInt count
  | .index fault => fault.message
  | .encode fault => fault.message
  | .send _ fault => fault.message
  | .held => "Existing exports of data: object cannot be re-sized"

structure Emitter where
  codec : Codec
  source : Given Text := Record.defaultSource
deriving DecidableEq

namespace Emitter

/-- What came of sending: the number of bytes sent, the codec and the channel afterwards. -/
structure Sending where
  result : Except RunFault Nat
  codec : Codec
  channel : Channel

def sendRecord (e : Emitter) (index : Nat) (channel : Channel) : Sending :=
  match Record.forIndex index e.source with
  | .error fault => { result := .error (.index fault), codec := e.codec.reset, channel }
  | .ok record =>
    match e.codec.encode record with
    | (.error fault, codec) => { result := .error (.encode fault), codec := codec.reset, channel }
    | (.ok frame, codec) =>
      match channel.sendAll frame with
      | (.ok sent, channel) => { result := .ok sent, codec := codec.reset, channel }
      | (.error fault, channel) =>
        if codec.encoding.lendsBuffer && channel.holds fault then
          { result := .error .held, codec, channel }
        else { result := .error (.send index fault), codec := codec.reset, channel }

/-- Sends `count` more records from the given index on, after so many bytes. -/
def sendRecords (e : Emitter) (index bytesSent : Nat) (channel : Channel) : Nat → Sending
  | 0 => { result := .ok bytesSent, codec := e.codec, channel }
  | count + 1 =>
    let s := e.sendRecord index channel
    match s.result with
    | .error fault => { s with result := .error fault }
    | .ok sent =>
      sendRecords { e with codec := s.codec } (index + 1) (bytesSent + sent) s.channel count

structure Run where
  result : Except RunFault EmitStats
  emitter : Emitter
  channel : Channel

def run (e : Emitter) (count : Int) (channel : Channel) (watch : Stopwatch) : Run :=
  if count < 0 then
    { result := .error
        (if Decimal.fits count then .negativeCount count else .index (.unwritable .writing))
      emitter := e
      channel }
  else
    let s := e.sendRecords 0 0 channel count.toNat
    { result := s.result.map fun bytesSent =>
        { messages := count, bytesSent, elapsed := .float watch.elapsed }
      emitter := { e with codec := s.codec }
      channel := s.channel }

end Emitter

end RecordStream
