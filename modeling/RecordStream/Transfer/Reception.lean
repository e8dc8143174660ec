import RecordStream.Pieces
import RecordStream.Text.Basic

/-!
The receiving end of a connection. Bytes arrive in segments; a reader gets at most as many of
them at a time as its buffer holds, and never bytes of two segments at once.
-/

namespace RecordStream

/-- What the connection holds next. An empty segment ends the stream. -/
inductive Segment
  | data (bytes : Bytes)
  | fails (reason : Text)
deriving DecidableEq

inductive StreamEnd
  | closed
  | failed (reason : Text)
deriving DecidableEq

structure Reception where
  chunks : List Bytes
  ending : StreamEnd
deriving DecidableEq

namespace Reception

/-- The bytes received, without the places where they were cut. -/
def bytes (r : Reception) : Bytes := r.chunks.flatten

/-- What a reader with a buffer of the given size gets. An empty buffer gets nothing and takes
that for the end. -/
def ofSegments (bufferSize : Nat) : List Segment → Reception
  | [] => ⟨[], .closed⟩
  | .fails reason :: _ => ⟨[], .failed reason⟩
  | .data segment :: rest =>
    if segment.isEmpty || bufferSize == 0 then ⟨[], .closed⟩
    else
      let r := ofSegments bufferSize rest
      ⟨pieces bufferSize segment ++ r.chunks, r.ending⟩

end Reception

end RecordStream
