import RecordStream.Text.Basic

/-!
The operations of codecs and decoders. Every encoding has to supply the basic ones, and the
others are made of them, so an encoding that supplies nothing fails with a basic operation.
-/

namespace RecordStream

inductive BasicOperation
  | feed
  | iterate
  | pending
  | encode
  | reset
  | decoder
deriving DecidableEq

inductive Operation
  | basic (op : BasicOperation)
  /-- Encode, then reset in any case. -/
  | pack
  /-- Make a decoder, feed it, iterate and look at what is pending. -/
  | decodeAll
deriving DecidableEq

structure Unsupplied where
  operation : BasicOperation
deriving DecidableEq

def Unsupplied.message (u : Unsupplied) : Text :=
  "Subclasses must implement " ++
    (match u.operation with
      | .feed => "feed()"
      | .iterate => "__iter__()"
      | .pending => "pending"
      | .encode => "encode()"
      | .reset => "reset()"
      | .decoder => "decoder()" : Text)

/-- The complaint of an encoding that supplies nothing. The reset after a failed encoding fails
as well, and the later complaint counts. -/
def Operation.unsupplied : Operation → Unsupplied
  | .basic op => ⟨op⟩
  | .pack => ⟨.reset⟩
  | .decodeAll => ⟨.decoder⟩

end RecordStream
