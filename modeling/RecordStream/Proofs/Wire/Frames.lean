import RecordStream.Proofs.Framing.Objects
import RecordStream.Wire.Codec

/-! Whole frames in a row decode to their objects, and all objects come from whole frames. -/

namespace RecordStream.Encoding

variable {e : Encoding}

theorem decodeAll_frames {frames : List Bytes} {objects : List Value}
    (h : List.Forall₂ e.framing.Whole frames objects) :
    e.decodeAll frames.flatten = .ok objects := by
  have hdrain := Decoder.drain_frames_open h (Framing.course_nil e.framing.start)
  rw [List.append_nil] at hdrain
  simp [decodeAll, hdrain, Decoder.Taken.decodeFault?, Decoder.pending]

theorem decodeAll_whole {frame : Bytes} {v : Value} (h : e.framing.Whole frame v) :
    e.decodeAll frame = .ok [v] := by
  simpa using decodeAll_frames (.cons h .nil)

theorem exists_frames_of_decodeAll {data : Bytes} {objects : List Value}
    (h : e.decodeAll data = .ok objects) :
    ∃ frames, List.Forall₂ e.framing.Whole frames objects ∧ frames.flatten.Sublist data := by
  have hobjects : objects = ((Decoder.new e.framing).feed data).drain.objects := by
    unfold decodeAll at h
    dsimp only at h
    split at h
    · cases h
    · split at h
      · cases h
        rfl
      · cases h
  rw [hobjects]
  exact Decoder.exists_frames_of_drain (Framing.course_nil e.framing.start) 0 0 data

end RecordStream.Encoding
