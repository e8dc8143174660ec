import RecordStream.Wire.Framing

/-!
Streaming decoders. Bytes are fed as they arrive; objects are taken whenever someone asks. The
bytes of an unfinished frame stay pending, and so do those that nobody has asked for yet.
-/

namespace RecordStream

structure Decoder (f : Framing) where
  /-- What is known of the frame being read. -/
  state : f.State
  /-- How many bytes of that frame have been read. -/
  unfinished : Nat
  /-- How many bytes the complete frames had. -/
  consumed : Nat
  /-- The bytes behind. -/
  unread : Bytes

namespace Decoder

variable {f : Framing}

def new (f : Framing) : Decoder f := ⟨f.start, 0, 0, []⟩

def feed (d : Decoder f) (chunk : Bytes) : Decoder f := { d with unread := d.unread ++ chunk }

/-- How many bytes do not belong to a complete frame yet. -/
def pending (d : Decoder f) : Nat := d.unfinished + d.unread.length

/-- Objects in the order of the stream, the fault that ended the reading, and the decoder after
that. -/
structure Taken (f : Framing) where
  objects : List Value
  fault : Option f.Fault
  decoder : Decoder f

/-- Reads bytes until `limit` more objects are found, a frame is faulty, or no byte is left;
`found` holds the objects so far, the last one first. A byte that breaks the stream stays unread,
so reading on meets it again. -/
def scan (limit : Nat) (state : f.State) (unfinished consumed : Nat) (found : List Value) :
    Bytes → Taken f
  | [] => ⟨found.reverse, none, ⟨state, unfinished, consumed, []⟩⟩
  | b :: rest =>
    match limit with
    | 0 => ⟨found.reverse, none, ⟨state, unfinished, consumed, b :: rest⟩⟩
    | limit + 1 =>
      match f.step state b with
      | .more state => scan (limit + 1) state (unfinished + 1) consumed found rest
      | .object v => scan limit f.start 0 (consumed + unfinished + 1) (v :: found) rest
      | .blank => scan (limit + 1) f.start 0 (consumed + unfinished + 1) found rest
      | .refused fault =>
        ⟨found.reverse, some fault, ⟨f.start, 0, consumed + unfinished + 1, rest⟩⟩
      | .broken fault => ⟨found.reverse, some fault, ⟨state, unfinished, consumed, b :: rest⟩⟩

/-- The next objects, at most `limit` of them. -/
def take (limit : Nat) (d : Decoder f) : Taken f :=
  scan limit d.state d.unfinished d.consumed [] d.unread

/-- All objects up to the end of the bytes or the first fault. There cannot be more objects than
bytes. -/
def drain (d : Decoder f) : Taken f := take d.unread.length d

/-- Feeds chunks and drains the decoder after each, up to the first fault; `found` holds the
objects so far, the last one first. -/
def drainOnto (found : List Value) (d : Decoder f) : List Bytes → Taken f
  | [] => ⟨found.reverse, none, d⟩
  | chunk :: rest =>
    let t := (d.feed chunk).drain
    let found := t.objects.reverse ++ found
    match t.fault with
    | some fault => ⟨found.reverse, some fault, t.decoder⟩
    | none => drainOnto found t.decoder rest

def drainChunks (d : Decoder f) (chunks : List Bytes) : Taken f := drainOnto [] d chunks

end Decoder

end RecordStream
