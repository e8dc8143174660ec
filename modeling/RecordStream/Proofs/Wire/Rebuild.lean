import RecordStream.Proofs.Except
import RecordStream.Proofs.Json.Content
import RecordStream.Proofs.MessagePack.Content
import RecordStream.Proofs.Wire.Packing

/-!
Records that came out of bytes go into bytes again. Whatever an encoding reads as a record it can
write, but for the surrogates that only JSON lets through; and writing what was read a second time
changes nothing any more.
-/

namespace RecordStream

namespace Encoding

def recordsOf (objects : List Value) : List Record :=
  objects.filterMap fun v => (Record.ofValue v).toOption

/-- The records among the objects in the bytes, and the bytes that they are packed into one behind
the other; nothing, if the bytes are malformed or a record cannot be packed. -/
def rebuild (e : Encoding) (data : Bytes) : Option (List Record × Bytes) :=
  (e.decodeAll data).toOption.bind fun objects =>
    ((recordsOf objects).mapM fun r => (Codec.pack { encoding := e } r).1.toOption).map fun frames =>
      (recordsOf objects, frames.flatten)

/-- What is known of a record that was read of so many bytes. -/
structure Forwardable (e : Encoding) (n : Nat) (r : Record) : Prop where
  named : r.Named
  admits : e.Admits r.id
  msgpack : e = .msgpack → r.Plain ∧ MessagePack.leastSize r.toValue ≤ n

variable {e : Encoding} {n : Nat} {r : Record} {frame : Bytes} {v : Value}

theorem forwardable_of_whole (h : e.framing.Whole frame v) (hr : Record.ofValue v = .ok r) :
    e.Forwardable frame.length r := by
  have hshape := Record.shape_of_ofValue hr
  refine ⟨hshape.named, ?_, ?_⟩
  · cases e with
    | msgpack => exact (hshape.every (MessagePack.found_of_whole h).every).1.int _ rfl
    | json => exact fits_iff_admits.1 ((hshape.every (Json.every_whole h)).1 _ rfl)
  · rintro rfl
    have hfound := MessagePack.found_of_whole h
    refine ⟨fun t ht => ((hshape.every hfound.every).2 t ht).text t rfl, ?_⟩
    rw [← MessagePack.leastSize_of_shape hshape]
    exact hfound.size

namespace Forwardable

theorem mono (h : e.Forwardable n r) {m : Nat} (hm : n ≤ m) : e.Forwardable m r :=
  ⟨h.named, h.admits, fun he => ⟨(h.msgpack he).1, (h.msgpack he).2.trans hm⟩⟩

variable (h : e.Forwardable n r)

include h

theorem length_frame_le (hframe : e.frame r = .ok frame) (he : e = .msgpack) : frame.length ≤ n := by
  have hsize := (h.msgpack he).2
  subst he
  rwa [← MessagePack.length_frame hframe] at hsize

theorem frame_eq_error (hn : n < 2 ^ 32) {fault : EncodeFault} (hframe : e.frame r = .error fault) :
    e = .json ∧ (∃ t ∈ r.texts, t.hasSurrogate = true) ∧ ∃ u, fault = .surrogate u := by
  obtain ⟨t, ht, htext⟩ := Encoding.frame_eq_error hframe h.admits
  cases htext with
  | surrogate mixed u =>
    refine ⟨?_, ⟨t, ht, mixed⟩, u, rfl⟩
    cases e with
    | msgpack =>
      rw [(h.msgpack rfl).1 t ht] at mixed
      cases mixed
    | json => rfl
  | size plain large =>
    refine absurd ?_ large
    cases e with
    | msgpack =>
      have hlength := MessagePack.length_bytes_le_of_mem_texts ht
      exact (hlength.trans (h.msgpack rfl).2).trans_lt hn
    | json => trivial

end Forwardable

theorem exists_whole_of_mem {frames : List Bytes} {objects : List Value}
    (h : List.Forall₂ e.framing.Whole frames objects) (hv : v ∈ objects) :
    ∃ frame, e.framing.Whole frame v ∧ frame.length ≤ frames.flatten.length := by
  induction h with
  | nil => cases hv
  | @cons frame v' frames objects hwhole _ ih =>
    rw [List.flatten_cons, List.length_append]
    rcases List.mem_cons.1 hv with rfl | hv
    · exact ⟨frame, hwhole, Nat.le_add_right _ _⟩
    · obtain ⟨frame', hwhole', hlength⟩ := ih hv
      exact ⟨frame', hwhole', by omega⟩

theorem forwardable_of_decodeAll {data : Bytes} {objects : List Value}
    (h : e.decodeAll data = .ok objects) (hv : v ∈ objects) (hr : Record.ofValue v = .ok r) :
    e.Forwardable data.length r := by
  obtain ⟨frames, hframes, hsub⟩ := exists_frames_of_decodeAll h
  obtain ⟨frame, hwhole, hlength⟩ := exists_whole_of_mem hframes hv
  exact (forwardable_of_whole hwhole hr).mono (hlength.trans hsub.length_le)

/-! All records of the bytes. -/

theorem recordsOf_cons_ok (h : Record.ofValue v = .ok r) (objects : List Value) :
    recordsOf (v :: objects) = r :: recordsOf objects := by
  rw [recordsOf, List.filterMap_cons_some (by rw [h]; rfl), recordsOf]

theorem recordsOf_cons_error {fault : Record.ShapeFault} (h : Record.ofValue v = .error fault)
    (objects : List Value) : recordsOf (v :: objects) = recordsOf objects := by
  rw [recordsOf, List.filterMap_cons_none (by rw [h]; rfl), recordsOf]

theorem recordsOf_toValue {rs : List Record} (h : ∀ r ∈ rs, r.Named) :
    recordsOf (rs.map Record.toValue) = rs := by
  induction rs with
  | nil => rfl
  | cons r rest ih =>
    obtain ⟨hr, hrest⟩ := List.forall_mem_cons.1 h
    rw [List.map_cons, recordsOf_cons_ok (Record.ofValue_toValue hr), ih hrest]

theorem mem_recordsOf {objects : List Value} :
    r ∈ recordsOf objects ↔ ∃ v ∈ objects, Record.ofValue v = .ok r := by
  simp [recordsOf, List.mem_filterMap, toOption_eq_some_iff]

theorem rebuild_eq_some_iff {data bytes : Bytes} {rs : List Record} :
    e.rebuild data = some (rs, bytes) ↔ ∃ objects frames, e.decodeAll data = .ok objects ∧
      recordsOf objects = rs ∧ List.Forall₂ (fun r frame => e.frame r = .ok frame) rs frames ∧
      frames.flatten = bytes := by
  simp only [rebuild, Option.bind_eq_some_iff, Option.map_eq_some_iff, toOption_eq_some_iff,
    mapM_eq_some_iff, Codec.pack_new, Prod.mk.injEq]
  constructor
  · rintro ⟨objects, hobjects, frames, hframes, rfl, rfl⟩
    exact ⟨objects, frames, hobjects, rfl, hframes, rfl⟩
  · rintro ⟨objects, frames, hobjects, rfl, hframes, rfl⟩
    exact ⟨objects, hobjects, frames, hframes, rfl, rfl⟩

theorem length_packed_le {frames packed : List Bytes} {objects : List Value}
    (h : List.Forall₂ (framing .msgpack).Whole frames objects)
    (hpacked : List.Forall₂ (fun r bytes => Encoding.msgpack.frame r = .ok bytes)
      (recordsOf objects) packed) :
    packed.flatten.length ≤ frames.flatten.length := by
  induction h generalizing packed with
  | nil =>
    cases hpacked
    exact Nat.le_refl _
  | @cons frame v frames objects hwhole _ ih =>
    rw [List.flatten_cons, List.length_append]
    cases hr : Record.ofValue v with
    | error fault =>
      rw [recordsOf_cons_error hr] at hpacked
      exact (ih hpacked).trans (Nat.le_add_left _ _)
    | ok r =>
      rw [recordsOf_cons_ok hr] at hpacked
      cases hpacked with
      | cons hframe hrest =>
        have hhead := (forwardable_of_whole hwhole hr).length_frame_le hframe rfl
        have htail := ih hrest
        rw [List.flatten_cons, List.length_append]
        omega

theorem rebuild_rebuilt {data bytes : Bytes} {rs : List Record}
    (h : e.rebuild data = some (rs, bytes)) : e.rebuild bytes = some (rs, bytes) := by
  obtain ⟨objects, packed, hobjects, rfl, hpacked, rfl⟩ := rebuild_eq_some_iff.1 h
  have hnamed : ∀ r ∈ recordsOf objects, r.Named := by
    intro r hr
    obtain ⟨v, hv, hrecord⟩ := mem_recordsOf.1 hr
    exact (forwardable_of_decodeAll hobjects hv hrecord).named
  have hwholes := frames_whole hpacked
  have hagain := recordsOf_toValue hnamed
  exact rebuild_eq_some_iff.2 ⟨_, packed, decodeAll_frames hwholes, hagain, hpacked, rfl⟩

theorem length_rebuilt_le {data bytes : Bytes} {rs : List Record}
    (h : rebuild .msgpack data = some (rs, bytes)) : bytes.length ≤ data.length := by
  obtain ⟨objects, packed, hobjects, rfl, hpacked, rfl⟩ := rebuild_eq_some_iff.1 h
  obtain ⟨frames, hframes, hsub⟩ := exists_frames_of_decodeAll hobjects
  exact (length_packed_le hframes hpacked).trans hsub.length_le

end Encoding

namespace Codec

/-- A record that was read can be packed by the same encoding, except that JSON fails at a surrogate.
Its frame gives the same map and the same record, and in MessagePack it is no longer than the bytes
that were read. Rebuilding bytes that were rebuilt changes nothing. -/
theorem pack_decoded (e : Encoding) {data : Bytes} (hlength : data.length ≤ 104857600)
    {objects : List Value} (hdecoded : e.decodeAll data = .ok objects) :
    (∀ v ∈ objects, ∀ r, Record.ofValue v = .ok r →
      match (pack { encoding := e } r).1 with
      | .ok frame => (∀ t ∈ r.texts, t.hasSurrogate = false) ∧ e.decodeAll frame = .ok [r.toValue] ∧
          Record.ofValue r.toValue = .ok r ∧ (e = .msgpack → frame.length ≤ data.length)
      | .error fault => e = .json ∧ (∃ t ∈ r.texts, t.hasSurrogate = true) ∧
          ∃ u, fault = .surrogate u) ∧
    ∀ rs bytes, e.rebuild data = some (rs, bytes) →
      e.rebuild bytes = some (rs, bytes) ∧ (e = .msgpack → bytes.length ≤ data.length) := by
  refine ⟨?_, ?_⟩
  · intro v hv r hr
    have hforwardable := Encoding.forwardable_of_decodeAll hdecoded hv hr
    rw [pack_new]
    cases hframe : e.frame r with
    | ok frame =>
      have hplain : r.Plain := fun t ht => ((e.frame_isOk_iff.1 ⟨frame, hframe⟩).1 t ht).1
      have hwhole := Encoding.frame_whole hframe
      exact ⟨hplain, Encoding.decodeAll_whole hwhole, Record.ofValue_toValue hforwardable.named,
        hforwardable.length_frame_le hframe⟩
    | error fault => exact hforwardable.frame_eq_error (by omega) hframe
  · intro rs bytes hrebuilt
    refine ⟨Encoding.rebuild_rebuilt hrebuilt, ?_⟩
    rintro rfl
    exact Encoding.length_rebuilt_le hrebuilt

/-- A line with blanks, an escape, the fields in another order and one of them twice. -/
def looseLine : Bytes :=
  Utf8.bytes <|
    "\x7b \"message\": \"\\u0041\", \"id\": 5, \"parent\": \x7b\"child\": \"c\"\x7d,"
      ++ " \"source\": \"s\", \"id\": 7\x7d\n"

def looseRecord : Record := { id := 7, source := .value "s", child := "c", message := "A" }

def tightLine : Bytes :=
  Utf8.bytes
    "\x7b\"id\":7,\"source\":\"s\",\"parent\":\x7b\"child\":\"c\"\x7d,\"message\":\"A\"\x7d\n"

theorem pack_decoded_loose :
    Encoding.rebuild .json looseLine = some ([looseRecord], tightLine) ∧
      Encoding.rebuild .json tightLine = some ([looseRecord], tightLine) := by
  have hrebuilt : Encoding.rebuild .json looseLine = some ([looseRecord], tightLine) := by
    decide +kernel
  obtain ⟨objects, -, hdecoded, -⟩ := Encoding.rebuild_eq_some_iff.1 hrebuilt
  exact ⟨hrebuilt, ((pack_decoded .json (by decide) hdecoded).2 _ _ hrebuilt).1⟩

end Codec

end RecordStream
