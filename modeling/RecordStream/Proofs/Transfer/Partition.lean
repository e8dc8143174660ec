import Mathlib.Data.List.TakeWhile
import RecordStream.Proofs.Record.Shape
import RecordStream.Proofs.Transfer.Connections

/-!
The objects of a connection that ends well: each is either counted as a record, and kept if records
are kept, or counted as dropped, with a line in the log.
-/

namespace RecordStream

namespace Value

/-- A map with a message, whatever the message is and whatever else is in the map. -/
def HasMessage (v : Value) : Prop := ∃ entries m, v = .map entries ∧ (.text "message", m) ∈ entries

theorem hasKey_iff {v : Value} {key : Text} :
    v.hasKey key ↔ ∃ entries x, v = .map entries ∧ (.text key, x) ∈ entries := by
  cases v with
  | map entries =>
    rw [hasKey]
    constructor
    · intro hsome
      obtain ⟨x, hx⟩ := Option.isSome_iff_exists.1 hsome
      exact ⟨entries, x, rfl, mem_of_get? hx⟩
    · rintro ⟨_, x, ⟨⟩, hx⟩
      rw [get?, Option.isSome_map, List.find?_isSome]
      exact ⟨_, hx, by simp [sameKey]⟩
  | _ => simp [hasKey]

instance : DecidablePred HasMessage := fun v => decidable_of_iff (v.hasKey "message") hasKey_iff

end Value

namespace Sink

def admitted (requireMessage : Bool) (objects : List Value) : List Value :=
  if requireMessage then objects.filter fun v => v.HasMessage else objects

def rejected (requireMessage : Bool) (objects : List Value) : List Value :=
  if requireMessage then objects.filter fun v => ¬v.HasMessage else []

variable {s : Sink} {objects : List Value}

theorem accepts_eq (v : Value) : s.accepts v = (!s.requireMessage || decide v.HasMessage) := by
  have hkey : v.hasKey "message" = decide v.HasMessage :=
    Bool.eq_iff_iff.2 (Value.hasKey_iff.trans (decide_eq_true_iff (p := v.HasMessage)).symm)
  rw [accepts, hkey]

theorem filter_accepts : objects.filter s.accepts = admitted s.requireMessage objects := by
  unfold admitted
  split_ifs with hrequire
  · exact List.filter_congr fun v _ => by simp [accepts_eq, hrequire]
  · exact List.filter_eq_self.2 fun v _ => by simp [accepts_eq, hrequire]

theorem filter_not_accepts :
    objects.filter (fun v => !s.accepts v) = rejected s.requireMessage objects := by
  unfold rejected
  split_ifs with hrequire
  · exact List.filter_congr fun v _ => by simp [accepts_eq, hrequire]
  · exact List.filter_eq_nil_iff.2 fun v _ => by simp [accepts_eq, hrequire]

theorem length_admitted_add_length_rejected (requireMessage : Bool) (objects : List Value) :
    (admitted requireMessage objects).length + (rejected requireMessage objects).length =
      objects.length := by
  unfold admitted rejected
  split_ifs
  · simpa [List.countP_eq_length_filter] using
      (List.length_eq_countP_add_countP (fun v => decide v.HasMessage) (l := objects)).symm
  · rfl

theorem counts_statsOf (objects : List Value) (bytesReceived : Nat) (watch : Stopwatch) :
    (s.statsOf objects bytesReceived watch).records = (admitted s.requireMessage objects).length ∧
      (s.statsOf objects bytesReceived watch).dropped =
        (rejected s.requireMessage objects).length := by
  rw [← filter_accepts, ← filter_not_accepts]
  simp only [statsOf, List.countP_eq_length_filter, and_self]

theorem reading_of_decodeAll {bytes : Bytes} (h : s.encoding.decodeAll bytes = .ok objects) :
    (s.reading bytes).objects = objects := by
  have hreading : ((Decoder.new s.encoding.framing).feed bytes).drain = s.reading bytes := rfl
  unfold Encoding.decodeAll at h
  rw [hreading] at h
  cases hfault : (s.reading bytes).decodeFault? with
  | some fault =>
    simp only [hfault] at h
    cases h
  | none =>
    simp only [hfault] at h
    split_ifs at h
    cases h
    rfl

theorem handled_of_decodeAll {bytes : Bytes} (h : s.encoding.decodeAll bytes = .ok objects)
    (hhandled : ∀ v ∈ objects, s.canHandle v) : s.handled bytes = objects := by
  rw [handled, reading_of_decodeAll h]
  exact List.takeWhile_eq_self_iff.2 hhandled

theorem consume_of_decodeAll (hbuffer : 1 ≤ s.bufferSize) {segments : List Segment}
    (watch : Stopwatch) (hclosed : (Arrival.ofSegments segments).ending = .closed)
    (hdecode : s.encoding.decodeAll (Arrival.ofSegments segments).bytes = .ok objects)
    (hhandled : ∀ v ∈ objects, s.canHandle v) :
    (s.consume segments watch).result =
        .ok (s.statsOf objects (Arrival.ofSegments segments).bytes.length watch) ∧
      (s.consume segments watch).warnings =
        (rejected s.requireMessage objects).map droppingLine ∧
      (s.consume segments watch).sink.records =
        s.records ++ if s.keep then admitted s.requireMessage objects else [] := by
  have hobjects := handled_of_decodeAll hdecode hhandled
  rw [s.consume_eq hbuffer]
  refine ⟨?_, ?_, ?_⟩
  · have hall : (s.reading (Arrival.ofSegments segments).bytes).objects.all s.canHandle := by
      rw [reading_of_decodeAll hdecode]
      exact List.all_eq_true.2 hhandled
    rw [s.result_conclude _ watch hall, hdecode, hclosed]
  · rw [s.warnings_conclude, hobjects, filter_not_accepts]
  · rw [s.sink_conclude, kept, hobjects, filter_accepts]

/-- Every object of a stream that decodes completely is counted once, as a record or as dropped,
whatever it is and however the stream is cut. The dropped ones are those without a message, if a
message is required; each has its warning, and the others are kept in order, if any are. -/
theorem consume_partitions (s : Sink) (hbuffer : 1 ≤ s.bufferSize) (segments : List Segment)
    (watch : Stopwatch) {objects : List Value}
    (hclosed : (Arrival.ofSegments segments).ending = .closed)
    (hdecode : s.encoding.decodeAll (Arrival.ofSegments segments).bytes = .ok objects)
    (hdepth : ∀ v ∈ objects, v.depth ≤ 300) :
    let accepted := if s.requireMessage then objects.filter fun v => v.HasMessage else objects
    let dropped := if s.requireMessage then objects.filter fun v => ¬v.HasMessage else []
    let c := s.consume segments watch
    (∃ stats, c.result = .ok stats ∧ stats.records + stats.dropped = objects.length ∧
      stats.records = accepted.length ∧ stats.dropped = dropped.length ∧
      stats.bytesReceived = (Arrival.ofSegments segments).bytes.length) ∧
    c.warnings = dropped.map droppingLine ∧
    c.sink.records = s.records ++ (if s.keep then accepted else []) ∧
    ∀ kept,
      ({ s with requireMessage := false, keep := true }.consume segments watch).sink.records =
        s.records ++ kept →
      ({ s with requireMessage := true, keep := true }.consume segments watch).sink.records =
        s.records ++ kept.filter fun v => v.HasMessage := by
  intro accepted dropped c
  have hhandled (s : Sink) : ∀ v ∈ objects, s.canHandle v := fun v hv =>
    canHandle_of_depth (hdepth v hv)
  obtain ⟨hresult, hwarnings, hrecords⟩ :=
    consume_of_decodeAll hbuffer watch hclosed hdecode (hhandled s)
  obtain ⟨haccepted, hdropped⟩ := s.counts_statsOf objects _ watch
  refine ⟨⟨_, hresult, ?_, haccepted, hdropped, rfl⟩, hwarnings, hrecords, fun kept hkept => ?_⟩
  · rw [haccepted, hdropped, ← length_admitted_add_length_rejected s.requireMessage objects,
      Int.natCast_add]
  · obtain ⟨-, -, hall⟩ := consume_of_decodeAll (s := { s with requireMessage := false, keep := true })
      hbuffer watch hclosed hdecode (hhandled _)
    obtain ⟨-, -, hsome⟩ := consume_of_decodeAll (s := { s with requireMessage := true, keep := true })
      hbuffer watch hclosed hdecode (hhandled _)
    obtain rfl : kept = objects := List.append_cancel_left (hkept.symm.trans hall)
    exact hsome

/-- A null, a map whose message is null, an empty list, and a map without a message. -/
def mixedLines : Bytes :=
  [0x6E, 0x75, 0x6C, 0x6C, 0x0A, 0x7B, 0x22, 0x6D, 0x65, 0x73, 0x73, 0x61, 0x67, 0x65, 0x22, 0x3A,
    0x6E, 0x75, 0x6C, 0x6C, 0x7D, 0x0A, 0x5B, 0x5D, 0x0A, 0x7B, 0x7D, 0x0A]

def mixedObjects : List Value :=
  [.null, .map [(.text "message", .null)], .list [], .map []]

def mixedConsumption : Consumption .json :=
  Sink.consume { encoding := .json, keep := true, bufferSize := 3 }
    [.data (mixedLines.take 7), .data (mixedLines.drop 7)] ⟨Binary64.zero, Binary64.zero⟩

theorem consume_partitions_mixed :
    Encoding.json.decodeAll mixedLines = .ok mixedObjects ∧
      mixedConsumption.warnings = [.null, .list [], .map []].map droppingLine ∧
      mixedConsumption.sink.records = [.map [(.text "message", .null)]] := by
  have hdecode : Encoding.json.decodeAll mixedLines = .ok mixedObjects := rfl
  have hdropped : mixedObjects.filter (fun v => ¬v.HasMessage) = [.null, .list [], .map []] := rfl
  obtain ⟨-, hwarnings, hrecords, -⟩ := consume_partitions
    { encoding := .json, keep := true, bufferSize := 3 } (by decide)
    [.data (mixedLines.take 7), .data (mixedLines.drop 7)] ⟨Binary64.zero, Binary64.zero⟩ rfl hdecode
    (by decide)
  rw [if_pos rfl, hdropped] at hwarnings
  exact ⟨hdecode, hwarnings, hrecords⟩

end Sink

end RecordStream
