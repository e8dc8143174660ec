import Mathlib.Data.List.TakeWhile
import RecordStream.Proofs.Transfer.Arrival

/-!
What a sink makes of whole frames and the front of another one, however the connection cuts them:
it keeps the objects of the frames, and a front that is left over is the fault.
-/

namespace RecordStream

namespace Sink

theorem droppingLine_ne_receivedLine (v : Value) (stats : SinkStats) (watch : Stopwatch) :
    droppingLine v ≠ receivedLine stats watch := by
  intro h
  have hlevel : Level.warning = Level.info := congrArg LogLine.level h
  cases hlevel

theorem consume_frames (s : Sink) {cuts frames : List Bytes} {objects : List Value}
    {front : Bytes} (watch : Stopwatch) (hbuffer : 1 ≤ s.bufferSize)
    (hcuts : ∀ cut ∈ cuts, cut ≠ []) (hflatten : cuts.flatten = frames.flatten ++ front)
    (hframes : List.Forall₂ s.encoding.framing.Whole frames objects)
    (haccepted : ∀ v ∈ objects, s.accepts v) {next : s.encoding.framing.State}
    (hfront : s.encoding.framing.course s.encoding.framing.start front = some (.more next)) :
    (s.consume (cuts.map .data) watch).sink = s.keepAccepted objects ∧
    (∀ v, droppingLine v ∉ (s.consume (cuts.map .data) watch).logs) ∧
    (s.consume (cuts.map .data) watch).result =
      if front = [] then
        .ok { records := objects.length, dropped := 0, bytesReceived := cuts.flatten.length,
              elapsed := .float watch.elapsed }
      else .error (.decode (.cut front.length)) := by
  have harrival := Arrival.ofSegments_data hcuts
  have hreading : s.reading cuts.flatten =
      ⟨objects, none, ⟨next, front.length, frames.flatten.length, []⟩⟩ := by
    rw [hflatten]
    exact Decoder.drain_frames_open hframes hfront
  have hhandled : ∀ v ∈ objects, s.canHandle v := fun v hv => by simp [canHandle, haccepted v hv]
  have htake : objects.takeWhile s.canHandle = objects := List.takeWhile_eq_self_iff.2 hhandled
  have hdropped : objects.filter (fun v => !s.accepts v) = [] := by
    rw [List.filter_eq_nil_iff]
    intro v hv
    simp [haccepted v hv]
  have hfault : s.faultOf (⟨objects, none, ⟨next, front.length, frames.flatten.length, []⟩⟩ :
      Decoder.Taken s.encoding.framing) .closed =
        if front = [] then none else some (.decode (.cut front.length)) := by
    unfold faultOf
    rw [if_pos (List.all_eq_true.2 hhandled)]
    simp only [Decoder.Taken.decodeFault?, Option.map_none, Decoder.pending, List.length_nil,
      Nat.add_zero, List.length_eq_zero_iff]
  have hstats : s.statsOf objects cuts.flatten.length watch =
      { records := objects.length, dropped := 0, bytesReceived := cuts.flatten.length,
        elapsed := .float watch.elapsed } := by
    have hrecords : objects.countP s.accepts = objects.length :=
      List.countP_eq_length.2 haccepted
    have hdropped : objects.countP (fun v => !s.accepts v) = 0 := by
      rw [List.countP_eq_zero]
      intro v hv
      simp [haccepted v hv]
    rw [statsOf, hrecords, hdropped]
    rfl
  rw [s.consume_eq hbuffer, harrival]
  unfold conclude
  simp only [hreading, htake, hdropped, hfault, hstats]
  split_ifs with hempty
  · refine ⟨rfl, fun v hv => ?_, rfl⟩
    exact droppingLine_ne_receivedLine v _ _ (List.mem_singleton.1 hv)
  · exact ⟨rfl, fun v => List.not_mem_nil, rfl⟩

end Sink

end RecordStream
