import RecordStream.Value.Basic

/-!
How a stream of bytes is cut into frames. A framing reads one byte at a time and keeps a state
for the frame it is in, so where the stream is cut into chunks cannot matter.
-/

namespace RecordStream

/-- What one more byte does to the frame being read. -/
inductive Progress (State Fault : Type)
  /-- The frame goes on. -/
  | more (state : State)
  /-- The byte completes a frame that holds a value. -/
  | object (v : Value)
  /-- The byte completes a frame that holds nothing. -/
  | blank
  /-- The byte completes a frame that holds no value; reading can go on behind it. -/
  | refused (fault : Fault)
  /-- No frame continues with this byte, and nothing behind it can be read. -/
  | broken (fault : Fault)

structure Framing where
  /-- What is known of a frame that is not complete. -/
  State : Type
  Fault : Type
  /-- Between two frames. -/
  start : State
  step : State → UInt8 → Progress State Fault

end RecordStream
