import RecordStream.Proofs.Record.Index
import RecordStream.Proofs.Transfer.Sending
import RecordStream.Proofs.Wire.Packing

/-!
The frames of a run, and bytes that break off inside one of them. Either all indices that can be
written have a frame, or none has and the source is the reason: a surrogate is in it, or it is too
long to be announced.
-/

namespace RecordStream

def Emitter.new (e : Encoding) (source : Text) : Emitter where
  codec := { encoding := e }
  source := .value source

namespace Given

def HasRoom (source : Given Text) (e : Encoding) : Prop :=
  ∀ t, source = .value t → e.HasRoom t

inductive Unwritable (source : Given Text) (e : Encoding) : EncodeFault → Prop
  | surrogate (mixed : ¬source.Plain) (u : Unencodable) : Unwritable source e (.surrogate u)
  | size (plain : source.Plain) (large : ¬source.HasRoom e) : Unwritable source e .textSize

theorem hasRoom_of_length {t : Text} (h : t.length < 2 ^ 30) (e : Encoding) :
    HasRoom (.value t) e := by
  rintro _ ⟨⟩
  exact e.hasRoom_of_length h

end Given

namespace Record

variable {index : Nat} {source : Given Text} {r : Record}

theorem writable_forIndex (e : Encoding) (h : forIndex index source = .ok r) {t : Text}
    (ht : t ∈ r.texts) : source = .value t ∨ t.hasSurrogate = false ∧ e.HasRoom t := by
  have hfits := (forIndex_eq_ok_iff.1 h).1
  obtain hsource | rfl | rfl := (mem_texts_forIndex h).1 ht
  · exact .inl hsource
  · exact .inr ⟨by decide, e.hasRoom_of_length (by decide)⟩
  · exact .inr ⟨hasSurrogate_message index, e.hasRoom_of_length (length_message_lt hfits)⟩

theorem writable_forIndex_iff (e : Encoding) (h : forIndex index source = .ok r) :
    (∀ t ∈ r.texts, t.hasSurrogate = false ∧ e.HasRoom t) ↔ source.Plain ∧ source.HasRoom e := by
  constructor
  · intro hall
    have hsource (t : Text) (ht : source = .value t) := hall t ((mem_texts_forIndex h).2 (.inl ht))
    exact ⟨fun t ht => (hsource t ht).1, fun t ht => (hsource t ht).2⟩
  · rintro ⟨hplain, hroom⟩ t ht
    obtain hsource | hwritable := writable_forIndex e h ht
    · exact ⟨hplain t hsource, hroom t hsource⟩
    · exact hwritable

theorem unwritable_forIndex {e : Encoding} (h : forIndex index source = .ok r) {t : Text}
    (ht : t ∈ r.texts) {fault : EncodeFault} (hfault : e.Unwritable t fault) :
    source.Unwritable e fault := by
  have hsource : source = .value t := by
    refine (writable_forIndex e h ht).resolve_right fun ⟨hplain, hroom⟩ => ?_
    cases hfault with
    | surrogate mixed u =>
      rw [hplain] at mixed
      cases mixed
    | size plain large => exact large hroom
  subst hsource
  cases hfault with
  | surrogate mixed u =>
    refine .surrogate (fun hplain => ?_) u
    rw [hplain t rfl] at mixed
    cases mixed
  | size plain large =>
    exact .size (Given.plain_value_iff.2 plain) fun hroom => large (hroom t rfl)

theorem admits_of_forIndex (e : Encoding) (h : forIndex index source = .ok r) :
    e.Admits r.id := by
  have hadmits : e.Admits 42 := by cases e <;> decide
  obtain ⟨-, rfl⟩ := forIndex_eq_ok_iff.1 h
  exact hadmits

theorem exists_frame_forIndex_iff (e : Encoding) (h : forIndex index source = .ok r) :
    (∃ frame, e.frame r = .ok frame) ↔ source.Plain ∧ source.HasRoom e := by
  rw [e.frame_isOk_iff, writable_forIndex_iff e h]
  exact and_iff_left (admits_of_forIndex e h)

theorem unwritable_of_frame {e : Encoding} (h : forIndex index source = .ok r) {fault : EncodeFault}
    (hframe : e.frame r = .error fault) : source.Unwritable e fault := by
  obtain ⟨t, ht, htext⟩ := Encoding.frame_eq_error hframe (admits_of_forIndex e h)
  exact unwritable_forIndex h ht htext

end Record

namespace Emitter

variable {e : Emitter} {index : Nat} {frame : Bytes}

/-- Each record can be written, for all that the source has to do with it. -/
def Sendable (e : Emitter) : Prop := e.source.Plain ∧ e.source.HasRoom e.codec.encoding

theorem sendable_new {source : Text} (hplain : source.hasSurrogate = false)
    (hshort : source.length < 2 ^ 30) (e : Encoding) : (new e source).Sendable :=
  ⟨Given.plain_value_iff.2 hplain, Given.hasRoom_of_length hshort e⟩

theorem exists_frameAt (hsend : e.Sendable) (hindex : index < 10 ^ Decimal.maxDigits) :
    ∃ frame, e.frameAt index = .ok frame := by
  have hrecord := Record.forIndex_of_fits (Decimal.fits_natCast_iff.2 hindex) e.source
  obtain ⟨frame, hframe⟩ := (Record.exists_frame_forIndex_iff _ hrecord).2 hsend
  exact ⟨frame, frameAt_eq_ok_iff.2 ⟨_, hrecord, hframe⟩⟩

theorem frameAt_of_not_sendable (hsend : ¬e.Sendable) (hindex : index < 10 ^ Decimal.maxDigits) :
    ∃ fault, e.source.Unwritable e.codec.encoding fault ∧
      e.frameAt index = .error (.encode fault) := by
  have hrecord := Record.forIndex_of_fits (Decimal.fits_natCast_iff.2 hindex) e.source
  unfold frameAt
  rw [hrecord]
  cases hframe : e.codec.encoding.frame _ with
  | ok frame => exact absurd ((Record.exists_frame_forIndex_iff _ hrecord).1 ⟨frame, hframe⟩) hsend
  | error fault =>
    exact ⟨fault, Record.unwritable_of_frame hrecord hframe, by simp [hframe, Except.mapError]⟩

theorem Frames.append {m n : Nat} {front back : List Bytes} (h : e.Frames index m front)
    (h' : e.Frames (index + m) n back) : e.Frames index (m + n) (front ++ back) := by
  rw [Frames, ← List.range'_append_1]
  exact List.rel_append h h'

theorem Frames.length {count : Nat} {frames : List Bytes} (h : e.Frames index count frames) :
    frames.length = count := by
  rw [← List.Forall₂.length_eq h, List.length_range']

theorem exists_frames (hsend : e.Sendable) (index count : Nat)
    (hcount : index + count ≤ 10 ^ Decimal.maxDigits) : ∃ frames, e.Frames index count frames := by
  induction count generalizing index with
  | zero => exact ⟨[], .nil⟩
  | succ count ih =>
    have hindex : index < 10 ^ Decimal.maxDigits := by omega
    obtain ⟨frame, hframe⟩ := e.exists_frameAt hsend hindex
    obtain ⟨frames, hframes⟩ := ih (index + 1) (by omega)
    exact ⟨frame :: frames, .cons hframe hframes⟩

end Emitter

/-! How many frames are complete. -/

/-- How many of the frames, from the first one on, are complete at the front of the bytes. -/
def wholeFrames : List Bytes → Bytes → Nat
  | [], _ => 0
  | frame :: rest, bytes =>
    if frame.isPrefixOf bytes then wholeFrames rest (bytes.drop frame.length) + 1 else 0

/-- The bytes are the first `k` frames and a front of the next one, but not all of it. -/
def Torn (frames : List Bytes) (k : Nat) (bytes : Bytes) : Prop :=
  ∃ front frame, frames[k]? = some frame ∧ bytes = (frames.take k).flatten ++ front ∧
    front <+: frame ∧ front ≠ frame

theorem wholeFrames_append (frames rest : List Bytes) (bytes : Bytes) :
    wholeFrames (frames ++ rest) (frames.flatten ++ bytes) =
      frames.length + wholeFrames rest bytes := by
  induction frames with
  | nil => simp
  | cons frame frames ih =>
    have hfront : frame.isPrefixOf (frame ++ (frames.flatten ++ bytes)) := by simp
    rw [List.cons_append, List.flatten_cons, List.append_assoc, wholeFrames, if_pos hfront,
      List.drop_left, ih, List.length_cons]
    omega

theorem wholeFrames_of_front {frame front : Bytes} (h : front <+: frame) (hne : front ≠ frame)
    (rest : List Bytes) : wholeFrames (frame :: rest) front = 0 := by
  rw [wholeFrames, if_neg]
  intro hprefix
  exact hne (h.eq_of_length_le (List.isPrefixOf_iff_prefix.1 hprefix).length_le)

namespace Torn

variable {frames : List Bytes} {k : Nat} {bytes : Bytes}

theorem lt (h : Torn frames k bytes) : k < frames.length := by
  obtain ⟨front, frame, hframe, -⟩ := h
  exact (List.getElem?_eq_some_iff.1 hframe).1

theorem exists_split (h : Torn frames k bytes) :
    ∃ front frame, frames = frames.take k ++ frame :: frames.drop (k + 1) ∧
      bytes = (frames.take k).flatten ++ front ∧ front <+: frame ∧ front ≠ frame := by
  obtain ⟨front, frame, hframe, hbytes, hfront, hne⟩ := h
  obtain ⟨hk, rfl⟩ := List.getElem?_eq_some_iff.1 hframe
  refine ⟨front, _, ?_, hbytes, hfront, hne⟩
  rw [← List.drop_eq_getElem_cons hk, List.take_append_drop]

theorem exists_flatten_eq (h : Torn frames k bytes) :
    ∃ back, back ≠ [] ∧ frames.flatten = bytes ++ back := by
  obtain ⟨front, frame, hframes, rfl, ⟨back, rfl⟩, hne⟩ := h.exists_split
  refine ⟨back ++ (frames.drop (k + 1)).flatten, ?_, ?_⟩
  · rintro hback
    exact hne (by simp [(List.append_eq_nil_iff.1 hback).1])
  · have hflatten := congrArg List.flatten hframes
    rw [List.flatten_append, List.flatten_cons] at hflatten
    rw [hflatten]
    simp only [List.append_assoc]

theorem isPrefix (h : Torn frames k bytes) : bytes <+: frames.flatten := by
  obtain ⟨back, -, hflatten⟩ := h.exists_flatten_eq
  exact ⟨back, hflatten.symm⟩

theorem ne_flatten (h : Torn frames k bytes) : bytes ≠ frames.flatten := by
  obtain ⟨back, hback, hflatten⟩ := h.exists_flatten_eq
  rw [hflatten]
  simpa using hback.symm

theorem wholeFrames_eq (h : Torn frames k bytes) : wholeFrames frames bytes = k := by
  have hk : (frames.take k).length = k := List.length_take_of_le h.lt.le
  obtain ⟨front, frame, hframes, rfl, hfront, hne⟩ := h.exists_split
  have hwhole := wholeFrames_append (frames.take k) (frame :: frames.drop (k + 1)) front
  rw [← hframes, wholeFrames_of_front hfront hne, hk] at hwhole
  exact hwhole

end Torn

end RecordStream
