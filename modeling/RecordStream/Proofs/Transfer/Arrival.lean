import RecordStream.Proofs.Framing.Reading
import RecordStream.Transfer.Sink

/-!
What a connection brings, without the places where it was cut. A sink makes the same of it as if it
had come in one piece.
-/

namespace RecordStream

/-- The bytes before the first empty segment or failure, and which of the two it was. -/
structure Arrival where
  bytes : Bytes
  ending : StreamEnd
deriving DecidableEq

def Arrival.ofSegments : List Segment → Arrival
  | [] => ⟨[], .closed⟩
  | .fails reason :: _ => ⟨[], .failed reason⟩
  | .data segment :: rest =>
    if segment.isEmpty then ⟨[], .closed⟩
    else
      let a := ofSegments rest
      ⟨segment ++ a.bytes, a.ending⟩

theorem Arrival.ofSegments_data {cuts : List Bytes} (hcuts : ∀ cut ∈ cuts, cut ≠ []) :
    ofSegments (cuts.map .data) = ⟨cuts.flatten, .closed⟩ := by
  induction cuts with
  | nil => rfl
  | cons cut cuts ih =>
    obtain ⟨hcut, hcuts⟩ := List.forall_mem_cons.1 hcuts
    rw [List.map_cons, ofSegments, if_neg (by simpa using hcut), ih hcuts, List.flatten_cons]

theorem Reception.ofSegments_eq {bufferSize : Nat} (hbuffer : 1 ≤ bufferSize)
    (segments : List Segment) :
    Arrival.mk (ofSegments bufferSize segments).bytes (ofSegments bufferSize segments).ending =
      Arrival.ofSegments segments := by
  have hsize : bufferSize ≠ 0 := by omega
  induction segments with
  | nil => rfl
  | cons segment rest ih =>
    cases segment with
    | fails reason => rfl
    | data segment =>
      rw [ofSegments, Arrival.ofSegments, ← ih]
      by_cases hempty : segment.isEmpty
      · simp [hempty, bytes]
      · simp [hempty, hsize, bytes, flatten_pieces hsize]

namespace Sink

def reading (s : Sink) (bytes : Bytes) : Decoder.Taken s.encoding.framing :=
  ((Decoder.new s.encoding.framing).feed bytes).drain

def conclude (s : Sink) (t : Decoder.Taken s.encoding.framing) (a : Arrival) (watch : Stopwatch) :
    Consumption s.encoding :=
  let handled := t.objects.takeWhile s.canHandle
  let sink := s.keepAccepted handled
  let drops := (handled.filter fun v => !s.accepts v).map droppingLine
  match s.faultOf t a.ending with
  | some fault => { result := .error fault, sink, closed := 0, logs := drops }
  | none =>
    let stats := s.statsOf t.objects a.bytes.length watch
    { result := .ok stats, sink, closed := 0, logs := drops ++ [receivedLine stats watch] }

theorem faultOf_congr (s : Sink) {t t' : Decoder.Taken s.encoding.framing} (h : t.Agrees t')
    (ending : StreamEnd) : s.faultOf t ending = s.faultOf t' ending := by
  have hfault : t.decodeFault? = t'.decodeFault? := by
    rw [Decoder.Taken.decodeFault?, Decoder.Taken.decodeFault?, h.fault, h.consumed]
  unfold faultOf
  rw [h.objects, hfault]
  cases hnone : t'.fault with
  | none => rw [h.decoder hnone]
  | some fault => simp [Decoder.Taken.decodeFault?, hnone]

theorem conclude_congr (s : Sink) {t t' : Decoder.Taken s.encoding.framing} (h : t.Agrees t')
    (a : Arrival) (watch : Stopwatch) : s.conclude t a watch = s.conclude t' a watch := by
  unfold conclude
  rw [s.faultOf_congr h, h.objects]

theorem result_conclude (s : Sink) (a : Arrival) (watch : Stopwatch)
    (hhandled : (s.reading a.bytes).objects.all s.canHandle) :
    (s.conclude (s.reading a.bytes) a watch).result =
      match s.encoding.decodeAll a.bytes, a.ending with
      | .error (.malformed consumed fault), _ => .error (.decode (.malformed consumed fault))
      | _, .failed reason => .error (.stream reason)
      | .error (.trailing pending), .closed | .error (.cut pending), .closed =>
        .error (.decode (.cut pending))
      | .ok objects, .closed => .ok (s.statsOf objects a.bytes.length watch) := by
  have hreading : ((Decoder.new s.encoding.framing).feed a.bytes).drain = s.reading a.bytes := rfl
  unfold conclude faultOf Encoding.decodeAll
  rw [hreading, if_pos hhandled]
  obtain ⟨objects, fault, decoder⟩ := s.reading a.bytes
  unfold Decoder.Taken.decodeFault?
  cases fault with
  | some fault => rfl
  | none =>
    cases a.ending with
    | failed reason => by_cases hpending : decoder.pending = 0 <;> simp [hpending]
    | closed => by_cases hpending : decoder.pending = 0 <;> simp [hpending]

theorem canHandle_of_depth {s : Sink} {v : Value} (h : v.depth ≤ 300) : s.canHandle v := by
  have hshown : 300 < Value.maxShownDepth := by decide
  have htoo : v.tooDeep = false := decide_eq_false (by omega)
  simp [canHandle, htoo]

theorem consume_eq (s : Sink) (hbuffer : 1 ≤ s.bufferSize) (segments : List Segment)
    (watch : Stopwatch) :
    s.consume segments watch =
      s.conclude (s.reading (Arrival.ofSegments segments).bytes) (Arrival.ofSegments segments)
        watch := by
  let r := Reception.ofSegments s.bufferSize segments
  have hagrees := Decoder.drainChunks_agrees (d := Decoder.new s.encoding.framing) rfl r.chunks
  calc s.consume segments watch
      = s.conclude ((Decoder.new s.encoding.framing).drainChunks r.chunks) ⟨r.bytes, r.ending⟩
          watch := rfl
    _ = s.conclude (s.reading r.bytes) ⟨r.bytes, r.ending⟩ watch := s.conclude_congr hagrees _ watch
    _ = _ := by rw [← Reception.ofSegments_eq hbuffer segments]

end Sink

end RecordStream
