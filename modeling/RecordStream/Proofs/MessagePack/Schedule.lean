import RecordStream.Proofs.Framing.Schedule
import RecordStream.Proofs.MessagePack.Moves
import RecordStream.Proofs.Wire.Frames

/-!
Schedules of a MessagePack decoder. Which objects come, which fault ends them and how many bytes
stay pending depends on the bytes fed alone, and a fault names the number of bytes that the
objects before it had.
-/

namespace RecordStream

namespace MessagePack

theorem isDense_deliver (outer : List Container) (v : Value) : (deliver outer v).isDense := by
  fun_induction deliver outer v <;> simp_all

theorem Moves.isDense {outer : List Container} {p : Step} (h : Moves outer p) : p.isDense := by
  cases h with
  | brings => exact isDense_deliver _ _
  | _ => rfl

theorem framing_dense : framing.Dense := by
  intro s b
  exact (moves_step s b).isDense

end MessagePack

def Decoder.Taken.ending {e : Encoding} (t : Decoder.Taken e.framing) :
    Except (DecodeFault e) Nat :=
  match t.decodeFault? with
  | some fault => .error fault
  | none => .ok t.decoder.pending

namespace MessagePack

open Decoder

/-- The objects, the fault and the pending bytes of a schedule that ends with a drain are those of
one drain of all the bytes. At any time the objects so far are those of whole frames at the front
of the bytes fed; the bytes behind these frames are pending, and a fault names their length. -/
theorem schedule_independent (uses : List Use) :
    (let t : Taken Encoding.msgpack.framing := (new _).perform (uses ++ [.drain])
    let whole : Taken Encoding.msgpack.framing := ((new _).feed (Use.fed uses)).drain
    t.objects = whole.objects ∧ t.ending = whole.ending) ∧
    let t : Taken Encoding.msgpack.framing := (new _).perform uses
    ∃ frames : List Bytes,
      List.Forall₂ (fun frame v => Encoding.msgpack.decodeAll frame = .ok [v]) frames t.objects ∧
      frames.flatten <+: Use.fed uses ∧
      match t.fault with
      | none => t.decoder.pending + frames.flatten.length = (Use.fed uses).length
      | some fault =>
        t.ending.mapError DecodeFault.message =
          .error ("Malformed msgpack data after byte " ++ Decimal.ofNat frames.flatten.length
            ++ ": " ++ Fault.message fault) := by
  refine ⟨?_, ?_⟩
  · obtain ⟨hobjects, hfault, hconsumed, hdecoder⟩ :=
      perform_drain (f := Encoding.msgpack.framing) uses
    refine ⟨hobjects, ?_⟩
    unfold Taken.ending Taken.decodeFault?
    cases h : ((new Encoding.msgpack.framing).perform (uses ++ [.drain])).fault with
    | none =>
      rw [← hfault, h, hdecoder h]
    | some fault =>
      rw [← hfault, h, ← hconsumed]
      rfl
  · obtain ⟨left, ⟨frames, front, hframes, hd, hfed⟩, hall⟩ :=
      reached_new.perform (f := Encoding.msgpack.framing) framing_dense uses
    rw [List.nil_append] at hframes hfed
    refine ⟨frames, hframes.imp fun _ _ h => Encoding.decodeAll_whole h, ?_, ?_⟩
    · have hfront : frames.flatten <+: (Use.fed uses).take left := ⟨_, hfed.symm⟩
      exact hfront.trans (List.take_prefix _ _)
    · cases h : ((new Encoding.msgpack.framing).perform uses).fault with
      | none =>
        rw [List.take_of_length_le (hall h)] at hfed
        have hlength := congrArg List.length hfed
        simp only [List.length_append] at hlength
        simp only [pending, hd.unfinished]
        omega
      | some fault =>
        simp only [Taken.ending, Taken.decodeFault?, h, hd.consumed]
        rfl

end MessagePack

end RecordStream
