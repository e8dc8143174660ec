import RecordStream.Wire.Decoder
import RecordStream.Wire.Encoding
import RecordStream.Wire.Json.Line
import RecordStream.Wire.Json.Writer
import RecordStream.Wire.MessagePack.Reader
import RecordStream.Wire.MessagePack.Writer

/-!
Codecs. A codec writes records into a buffer that is used again and again: frames pile up in it
until it is reset. A failed record empties the buffer of a MessagePack codec and leaves that of a
JSON codec alone. A MessagePack codec gives a copy of its buffer away, a JSON codec the buffer
itself, which it can only reset when nobody holds it any more.
-/

namespace RecordStream

namespace Encoding

def frame : Encoding → Record → Except EncodeFault Bytes
  | .msgpack => MessagePack.frame
  | .json => Json.frame

def framing : Encoding → Framing
  | .msgpack => MessagePack.framing
  | .json => Json.framing

/-- Is what encoding gives the buffer of the codec itself? -/
def lendsBuffer : Encoding → Bool
  | .msgpack => false
  | .json => true

/-- A faulty frame in a message; `consumed` counts the bytes of the complete frames before. -/
def describeFault : (e : Encoding) → (consumed : Nat) → e.framing.Fault → Text
  | .msgpack, consumed, fault =>
    let fault : MessagePack.Fault := fault
    "Malformed msgpack data after byte " ++ Decimal.ofNat consumed ++ ": " ++ fault.message
  | .json, _, fault =>
    let fault : Json.Fault := fault
    fault.message

end Encoding

inductive DecodeFault (e : Encoding)
  | malformed (consumed : Nat) (fault : e.framing.Fault)
  /-- So many bytes are left that are no whole frame. -/
  | trailing (pending : Nat)
  /-- A connection ended with so many bytes of a frame. -/
  | cut (pending : Nat)

def DecodeFault.message {e : Encoding} : DecodeFault e → Text
  | .malformed consumed fault => e.describeFault consumed fault
  | .trailing pending =>
    Decimal.ofNat pending ++ " trailing bytes do not form a complete " ++ e.name ++ " frame"
  | .cut pending =>
    "Connection closed inside a frame, " ++ Decimal.ofNat pending ++ " bytes left over"

def Decoder.Taken.decodeFault? {e : Encoding} (t : Decoder.Taken e.framing) :
    Option (DecodeFault e) :=
  t.fault.map (.malformed t.decoder.consumed)

def Encoding.decodeAll (e : Encoding) (data : Bytes) : Except (DecodeFault e) (List Value) :=
  let t := ((Decoder.new e.framing).feed data).drain
  match t.decodeFault? with
  | some fault => .error fault
  | none =>
    if t.decoder.pending = 0 then .ok t.objects else .error (.trailing t.decoder.pending)

structure Codec where
  encoding : Encoding
  buffer : Bytes := []
deriving DecidableEq

namespace Codec

def reset (c : Codec) : Codec := { c with buffer := [] }

def encode (c : Codec) (r : Record) : Except EncodeFault Bytes × Codec :=
  match c.encoding.frame r with
  | .ok frame => (.ok (c.buffer ++ frame), { c with buffer := c.buffer ++ frame })
  | .error fault =>
    (.error fault, if c.encoding = .msgpack then c.reset else c)

/-- Writes a record and resets, whether the record could be written or not. -/
def pack (c : Codec) (r : Record) : Except EncodeFault Bytes × Codec :=
  let (result, c) := c.encode r
  (result, c.reset)

end Codec

end RecordStream
