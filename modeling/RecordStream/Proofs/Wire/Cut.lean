import RecordStream.Proofs.Framing.Schedule
import RecordStream.Proofs.Wire.Packing

/-!
Streams that are cut inside a frame. Wherever the cut is, the frame is neither taken for a whole one
nor for a malformed one: its bytes stay pending until the rest of them comes.
-/

namespace RecordStream

namespace Decoder

variable {f : Framing} {frames : List Bytes} {objects : List Value} {front back : Bytes} {v : Value}

theorem drain_cut (hframes : List.Forall₂ f.Whole frames objects) (hwhole : f.Whole (front ++ back) v)
    (hback : back ≠ []) :
    ∃ d, ((new f).feed (frames.flatten ++ front)).drain = ⟨objects, none, d⟩ ∧
      d.pending = front.length ∧
      (d.feed back).drain =
        ⟨[v], none, ⟨f.start, 0, frames.flatten.length + (front ++ back).length, []⟩⟩ := by
  obtain ⟨s, hfront⟩ := Framing.course_front hwhole hback
  have hrest : f.course s back = some (.object v) := by
    rw [← Framing.course_append back hfront]
    exact hwhole
  refine ⟨⟨s, front.length, frames.flatten.length, []⟩, drain_frames_open hframes hfront, ?_, ?_⟩
  · rfl
  · have hfed : feed ⟨s, front.length, frames.flatten.length, []⟩ back =
        (⟨s, front.length, frames.flatten.length, back ++ []⟩ : Decoder f) := by
      rw [List.append_nil]
      rfl
    rw [hfed, drain_object hrest, drain_nil, Taken.after, List.length_append, Nat.add_assoc]
    rfl

end Decoder

namespace Encoding

variable {e : Encoding} {frames : List Bytes} {objects : List Value} {front back : Bytes} {v : Value}

theorem decodeAll_cut (hframes : List.Forall₂ e.framing.Whole frames objects)
    (hwhole : e.framing.Whole (front ++ back) v) (hfront : front ≠ []) (hback : back ≠ []) :
    e.decodeAll (frames.flatten ++ front) = .error (.trailing front.length) := by
  obtain ⟨d, hdrain, hpending, -⟩ := Decoder.drain_cut hframes hwhole hback
  have hlength : front.length ≠ 0 := by simpa using hfront
  simp [decodeAll, hdrain, Decoder.Taken.decodeFault?, hpending, hlength]

end Encoding

namespace Codec

open Decoder (Use)

/-- Packed records and a record that is cut anywhere: all bytes of the cut record, and no others, are
reported as trailing. A decoder gives the other records, however it is fed and used, and gives the
cut one as soon as the rest of it comes. -/
theorem pack_cut (e : Encoding) {rs : List Record} {frames : List Bytes} {r : Record}
    {front back : Bytes}
    (hframes : List.Forall₂ (fun r frame => (pack { encoding := e } r).1 = .ok frame) rs frames)
    (hframe : (pack { encoding := e } r).1 = .ok (front ++ back))
    (hfront : front ≠ []) (hback : back ≠ [])
    (_ : (frames.flatten ++ (front ++ back)).length ≤ 104857600) :
    (∃ fault, e.decodeAll (frames.flatten ++ front) = .error fault ∧
      fault = .trailing front.length ∧
      fault.message = Decimal.ofNat front.length ++ " trailing bytes do not form a complete "
        ++ e.name ++ " frame") ∧
    ∀ uses, Use.fed uses = frames.flatten ++ front →
      let cut := (Decoder.new e.framing).perform (uses ++ [.drain])
      let completed := (cut.decoder.feed back).drain
      (cut.objects = rs.map Record.toValue ∧ cut.fault = none ∧
          cut.decoder.pending = front.length) ∧
        completed.objects = [r.toValue] ∧ completed.fault = none ∧
          completed.decoder.pending = 0 := by
  simp only [pack_new] at hframes hframe
  have hwhole := Encoding.frame_whole hframe
  have hwholes := Encoding.frames_whole hframes
  refine ⟨⟨_, Encoding.decodeAll_cut hwholes hwhole hfront hback, rfl, rfl⟩, ?_⟩
  intro uses hfed
  obtain ⟨d, hdrain, hpending, hrest⟩ := Decoder.drain_cut hwholes hwhole hback
  obtain ⟨hobjects, hfault, -, hdecoder⟩ := Decoder.perform_drain (f := e.framing) uses
  rw [hfed, hdrain] at hobjects hfault hdecoder
  have hd := hdecoder hfault
  simp only [hobjects, hfault, hd, hpending, hrest, true_and]
  rfl

def accented : Record := { source := .value "\u00e9", message := "" }

/-- The frame of the record, up to the first of the two bytes of the letter. -/
def accentedFront : Bytes :=
  [0x84, 0xA2, 0x69, 0x64, 0x2A, 0xA6, 0x73, 0x6F, 0x75, 0x72, 0x63, 0x65, 0xA2, 0xC3]

def accentedBack : Bytes :=
  [0xA9, 0xA6, 0x70, 0x61, 0x72, 0x65, 0x6E, 0x74, 0x81, 0xA5, 0x63, 0x68, 0x69, 0x6C, 0x64, 0xA4,
    0x69, 0x74, 0x65, 0x6D, 0xA7, 0x6D, 0x65, 0x73, 0x73, 0x61, 0x67, 0x65, 0xA0]

theorem pack_cut_inside_letter :
    let bytes := accentedFront ++ accentedBack ++ accentedFront
    let cut := (Decoder.new MessagePack.framing).perform (bytes.map (fun b => .feed [b]) ++ [.drain])
    (pack { encoding := .msgpack } accented).1 = .ok (accentedFront ++ accentedBack) ∧
      Encoding.decodeAll .msgpack bytes = .error (.trailing 14) ∧
      cut.objects = [accented.toValue] ∧
      (cut.decoder.feed accentedBack).drain.objects = [accented.toValue] := by
  intro bytes cut
  have hpacked : (pack { encoding := .msgpack } accented).1 = .ok (accentedFront ++ accentedBack) :=
    rfl
  have hframes : List.Forall₂ (fun r frame => (pack { encoding := .msgpack } r).1 = .ok frame)
      [accented] [accentedFront ++ accentedBack] := .cons hpacked .nil
  have h := pack_cut .msgpack hframes hpacked (by decide) (by decide) (by decide)
  rw [List.flatten_singleton] at h
  obtain ⟨⟨fault, hdecoded, rfl, -⟩, huses⟩ := h
  have hfed : Use.fed (bytes.map fun b => Use.feed [b]) = bytes := by
    rw [Use.fed, List.flatMap_map]
    exact List.flatMap_singleton' bytes
  obtain ⟨⟨hobjects, -⟩, hcompleted, -⟩ := huses _ hfed
  exact ⟨hpacked, hdecoded, hobjects, hcompleted⟩

end Codec

end RecordStream
