import RecordStream.Proofs.Json.Frame
import RecordStream.Proofs.MessagePack.Frame
import RecordStream.Proofs.Wire.Frames

/-!
Records and their frames, in either encoding: which records can be packed, and that those are
found again, in order, in the frames in a row.
-/

namespace RecordStream

namespace Encoding

variable {e : Encoding}

def Admits : Encoding → Int → Prop
  | .msgpack, n => -2 ^ 63 ≤ n ∧ n ≤ 2 ^ 64 - 1
  | .json, n => (Nat.toDigits 10 n.natAbs).length ≤ 4300

instance : (e : Encoding) → (n : Int) → Decidable (e.Admits n)
  | .msgpack, _ => inferInstanceAs (Decidable (_ ∧ _))
  | .json, _ => inferInstanceAs (Decidable (_ ≤ _))

theorem fits_iff_admits {n : Int} : Decimal.fits n ↔ Admits .json n := by
  rw [Decimal.fits_iff, Decimal.ofNat, List.length_map]
  rfl

/-- Can the length of the text be announced? JSON announces none. -/
def HasRoom : Encoding → Text → Prop
  | .msgpack, t => (Utf8.bytes t).length < 2 ^ 32
  | .json, _ => True

instance : (e : Encoding) → (t : Text) → Decidable (e.HasRoom t)
  | .msgpack, _ => inferInstanceAs (Decidable (_ < _))
  | .json, _ => inferInstanceAs (Decidable True)

theorem hasRoom_of_length (e : Encoding) {t : Text} (h : t.length < 2 ^ 30) : e.HasRoom t := by
  cases e with
  | msgpack =>
    have hle := Utf8.length_bytes_le t
    rw [HasRoom]
    omega
  | json => trivial

theorem frame_isOk_iff (e : Encoding) {r : Record} :
    (∃ frame, e.frame r = .ok frame) ↔
      (∀ t ∈ r.texts, t.hasSurrogate = false ∧ e.HasRoom t) ∧ e.Admits r.id := by
  cases e with
  | msgpack => exact MessagePack.frame_isOk_iff
  | json =>
    have hroom (t : Text) : t.hasSurrogate = false ∧ json.HasRoom t ↔ t.hasSurrogate = false :=
      and_iff_left trivial
    simp only [hroom]
    exact Json.frame_isOk_iff.trans (and_congr_right fun _ => fits_iff_admits)

inductive Unwritable (e : Encoding) (t : Text) : EncodeFault → Prop
  | surrogate (mixed : t.hasSurrogate = true) (u : Unencodable) : Unwritable e t (.surrogate u)
  | size (plain : t.hasSurrogate = false) (large : ¬e.HasRoom t) : Unwritable e t .textSize

theorem frame_eq_error {r : Record} {fault : EncodeFault} (h : e.frame r = .error fault)
    (hadmits : e.Admits r.id) : ∃ t ∈ r.texts, e.Unwritable t fault := by
  cases e with
  | msgpack =>
    obtain ⟨id, hid⟩ := MessagePack.integer_isOk_iff.2 hadmits
    obtain hfault | ⟨t, ht, htext⟩ := MessagePack.frame_eq_error h
    · rw [hid] at hfault
      cases hfault
    · refine ⟨t, ht, ?_⟩
      obtain ⟨hmixed, u, rfl⟩ | ⟨hplain, hlarge, rfl⟩ := MessagePack.text_eq_error htext
      · exact .surrogate hmixed u
      · exact .size hplain (Nat.not_lt.2 hlarge)
  | json =>
    have hfits := fits_iff_admits.2 hadmits
    obtain ⟨u, rfl⟩ := (Json.frame_eq_error h).resolve_left (by simp [hfits])
    have hmixed : ¬r.Plain := by
      intro hplain
      obtain ⟨frame, hok⟩ := Json.frame_isOk_iff.2 ⟨hplain, hfits⟩
      cases h.symm.trans hok
    simp only [Record.Plain, not_forall, Bool.not_eq_false] at hmixed
    obtain ⟨t, ht, hmixed⟩ := hmixed
    exact ⟨t, ht, .surrogate hmixed u⟩

theorem frame_whole {r : Record} {frame : Bytes} (h : e.frame r = .ok frame) :
    e.framing.Whole frame r.toValue := by
  cases e with
  | msgpack => exact MessagePack.frame_whole h
  | json => exact Json.frame_whole h

theorem frames_whole {rs : List Record} {frames : List Bytes}
    (h : List.Forall₂ (fun r frame => e.frame r = .ok frame) rs frames) :
    List.Forall₂ e.framing.Whole frames (rs.map Record.toValue) := by
  induction h with
  | nil => exact .nil
  | cons hframe _ ih => exact .cons (frame_whole hframe) ih

end Encoding

namespace Codec

theorem pack_new (e : Encoding) (r : Record) :
    pack { encoding := e } r = (e.frame r, { encoding := e }) := by
  unfold pack encode
  cases e.frame r with
  | ok frame => rfl
  | error fault => cases e <;> rfl

/-- A record can be packed exactly if no text of it holds a surrogate or is too long to announce,
which no short text is, and the encoding can write its number. Records that were packed are found
again in the bytes, in order: each as the map of its fields, out of which the record is made again. -/
theorem pack_round_trip (e : Encoding) :
    (∀ r : Record, (∃ frame, (pack { encoding := e } r).1 = .ok frame) ↔
      (∀ t ∈ r.texts, t.hasSurrogate = false ∧ e.HasRoom t) ∧ e.Admits r.id) ∧
    (∀ t : Text, t.length < 2 ^ 30 → e.HasRoom t) ∧
    ∀ (rs : List Record) (frames : List Bytes), (∀ r ∈ rs, r.Named) →
      List.Forall₂ (fun r frame => (pack { encoding := e } r).1 = .ok frame) rs frames →
      frames.flatten.length ≤ 104857600 →
      ∃ objects, e.decodeAll frames.flatten = .ok objects ∧ objects = rs.map Record.toValue ∧
        (∀ v ∈ objects, ∃ entries, v = .map entries ∧
          entries.map (·.1) = [.text "id", .text "source", .text "parent", .text "message"]) ∧
        objects.map Record.ofValue = rs.map .ok := by
  simp only [pack_new]
  refine ⟨fun r => e.frame_isOk_iff, fun t => e.hasRoom_of_length, fun rs frames hnamed hframes _ => ?_⟩
  have hwhole := Encoding.frames_whole hframes
  refine ⟨_, Encoding.decodeAll_frames hwhole, rfl, ?_, ?_⟩
  · intro v hv
    obtain ⟨r, -, rfl⟩ := List.mem_map.1 hv
    exact r.keys_toValue
  · rw [List.map_map]
    exact List.map_congr_left fun r hr => Record.ofValue_toValue (hnamed r hr)

theorem pack_round_trip_two :
    ∃ frames, List.Forall₂ (fun r frame => (pack { encoding := .msgpack } r).1 = .ok frame)
        [{ id := -7, source := .value "a\"b", message := "\n" }, { message := "" }] frames ∧
      Encoding.decodeAll .msgpack frames.flatten =
        .ok [.map [(.text "id", .int (-7)), (.text "source", .text "a\"b"),
            (.text "parent", .map [(.text "child", .text "item")]), (.text "message", .text "\n")],
          .map [(.text "id", .int 42), (.text "source", .text "service"),
            (.text "parent", .map [(.text "child", .text "item")]),
            (.text "message", .text "")]] := by
  let first : Record := { id := -7, source := .value "a\"b", message := "\n" }
  let second : Record := { message := "" }
  obtain ⟨frame₁, h₁⟩ := ((pack_round_trip .msgpack).1 first).2 ⟨by decide, by decide⟩
  obtain ⟨frame₂, h₂⟩ := ((pack_round_trip .msgpack).1 second).2 ⟨by decide, by decide⟩
  have hframes : List.Forall₂ (fun r frame => (pack { encoding := .msgpack } r).1 = .ok frame)
      [first, second] [frame₁, frame₂] := .cons h₁ (.cons h₂ .nil)
  have hnamed : ∀ r ∈ [first, second], r.Named := by
    simp only [List.forall_mem_cons, List.not_mem_nil, false_implies, implies_true, and_true]
    exact ⟨⟨_, rfl⟩, ⟨_, rfl⟩⟩
  have hlength : [frame₁, frame₂].flatten.length ≤ 104857600 := by
    cases h₁
    cases h₂
    decide
  obtain ⟨objects, hdecoded, rfl, -⟩ := (pack_round_trip .msgpack).2.2 _ _ hnamed hframes hlength
  exact ⟨_, hframes, hdecoded⟩

end Codec

end RecordStream
