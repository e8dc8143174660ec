import RecordStream.Proofs.Json.Schedule
import RecordStream.Proofs.Wire.Packing

/-!
Frames as lines of a stream. Whatever the texts of a record hold, its frame is UTF-8 whose only
control character is the line end behind it. So the frames in a row are as many lines, and all of
them are taken for UTF-8.
-/

namespace RecordStream.Json

/-- The frame of some record as a single line. -/
structure OneLine (frame : Bytes) : Prop where
  utf8 : ∃ t, Utf8.decode frame = .ok t
  opening : Utf8.bytes "\x7b\"id\":" <+: frame
  ending : frame.getLast? = some 0x0A
  printable : ∀ b ∈ frame.dropLast, 0x20 ≤ b.toNat

theorem oneLine_of_frame {r : Record} {bytes : Bytes} (h : frame r = .ok bytes) :
    OneLine bytes := by
  obtain ⟨hplain, -, rfl⟩ := frame_eq_ok_iff.1 h
  refine ⟨⟨object r ++ "\n", ?_⟩, ?_, List.getLast?_concat, ?_⟩
  · refine Utf8.decode_eq_ok_iff.2 ⟨?_, Utf8.bytes_append _ _⟩
    rw [Text.hasSurrogate_append, (hasSurrogate_object r).2 hplain, Text.hasSurrogate_ofString]
    rfl
  · obtain ⟨t, ht⟩ := exists_object_eq r
    rw [ht, Utf8.bytes_append, List.append_assoc]
    exact List.prefix_append _ _
  · rw [List.dropLast_concat]
    exact fun b hb => blank_le_of_mem_line hb

namespace OneLine

variable {frame : Bytes} (h : OneLine frame)

include h

theorem dropLast_append : frame.dropLast ++ [0x0A] = frame :=
  List.dropLast_append_getLast? _ h.ending

theorem not_mem_dropLast : 0x0A ∉ frame.dropLast := fun hmem =>
  absurd (h.printable _ hmem) (by decide)

theorem count_lineEnd : frame.count 0x0A = 1 := by
  rw [← h.dropLast_append, List.count_append, List.count_eq_zero_of_not_mem h.not_mem_dropLast]
  rfl

theorem lines_append (rest : Bytes) : lines (frame ++ rest) = frame.dropLast :: lines rest := by
  have hlines := Json.lines_append h.not_mem_dropLast rest
  rwa [List.append_cons, h.dropLast_append] at hlines

theorem unended_append (rest : Bytes) : unended (frame ++ rest) = unended rest := by
  have hunended := Json.unended_append h.not_mem_dropLast rest
  rwa [List.append_cons, h.dropLast_append] at hunended

theorem schemeOf_dropLast : schemeOf frame.dropLast = .utf8 := by
  obtain ⟨rest, rfl⟩ := h.opening
  have hne : rest ≠ [] := by
    rintro rfl
    have hending := h.ending
    revert hending
    decide
  rw [List.dropLast_append_of_ne_nil hne]
  rfl

end OneLine

/-! All frames of a stream. -/

section

variable {frames : List Bytes} (h : ∀ frame ∈ frames, OneLine frame)

include h

theorem count_lineEnd_flatten : frames.flatten.count 0x0A = frames.length := by
  induction frames with
  | nil => rfl
  | cons frame frames ih =>
    obtain ⟨hframe, hframes⟩ := List.forall_mem_cons.1 h
    rw [List.flatten_cons, List.count_append, hframe.count_lineEnd, ih hframes, List.length_cons,
      Nat.add_comm]

theorem lines_flatten : lines frames.flatten = frames.map List.dropLast := by
  induction frames with
  | nil => rfl
  | cons frame frames ih =>
    obtain ⟨hframe, hframes⟩ := List.forall_mem_cons.1 h
    rw [List.flatten_cons, hframe.lines_append, ih hframes, List.map_cons]

theorem unended_flatten : unended frames.flatten = [] := by
  induction frames with
  | nil => rfl
  | cons frame frames ih =>
    obtain ⟨hframe, hframes⟩ := List.forall_mem_cons.1 h
    rw [List.flatten_cons, hframe.unended_append, ih hframes]

end

/-- Each record that can be packed makes one line, whatever its texts hold. Records in a row make
as many line ends and no others, what stands between them is each frame without its own, and it is
read as UTF-8. -/
theorem packed_records_are_lines {rs : List Record} {frames : List Bytes}
    (h : List.Forall₂ (fun r frame => (Codec.pack { encoding := .json } r).1 = .ok frame) rs
      frames) :
    (∀ frame ∈ frames, OneLine frame) ∧ frames.flatten.count 0x0A = rs.length ∧
      lines frames.flatten = frames.map List.dropLast ∧ unended frames.flatten = [] ∧
      ∀ line ∈ lines frames.flatten, schemeOf line = .utf8 := by
  have hlines : ∀ frame ∈ frames, OneLine frame := by
    induction h with
    | nil => simp
    | cons hr _ ih =>
      rw [Codec.pack_new] at hr
      exact List.forall_mem_cons.2 ⟨oneLine_of_frame hr, ih⟩
  refine ⟨hlines, ?_, lines_flatten hlines, unended_flatten hlines, ?_⟩
  · rw [count_lineEnd_flatten hlines, h.length_eq]
  · rw [lines_flatten hlines]
    intro line hline
    obtain ⟨frame, hframe, rfl⟩ := List.mem_map.1 hline
    exact (hlines frame hframe).schemeOf_dropLast

theorem packed_records_are_lines_separators :
    ∃ frames, List.Forall₂ (fun r frame => (Codec.pack { encoding := .json } r).1 = .ok frame)
        [{ message := "a\n\nb\r\n" }, { id := -7, source := .value "\u2028", message := "😀\t" }]
        frames ∧
      (∀ frame ∈ frames, OneLine frame) ∧ frames.flatten.count 0x0A = 2 := by
  let first : Record := { message := "a\n\nb\r\n" }
  let second : Record := { id := -7, source := .value "\u2028", message := "😀\t" }
  have hfirst : ∀ t ∈ first.texts, t.hasSurrogate = false := by decide
  have hsecond : ∀ t ∈ second.texts, t.hasSurrogate = false := by decide
  obtain ⟨frame₁, h₁⟩ := frame_isOk_iff.2 ⟨hfirst, show Decimal.fits 42 by decide⟩
  obtain ⟨frame₂, h₂⟩ := frame_isOk_iff.2 ⟨hsecond, show Decimal.fits (-7) by decide⟩
  have hframes : List.Forall₂
      (fun r frame => (Codec.pack { encoding := .json } r).1 = .ok frame) [first, second]
      [frame₁, frame₂] := by
    refine .cons ?_ (.cons ?_ .nil)
    · rw [Codec.pack_new]
      exact h₁
    · rw [Codec.pack_new]
      exact h₂
  obtain ⟨hlines, hcount, -⟩ := packed_records_are_lines hframes
  exact ⟨_, hframes, hlines, hcount⟩

end RecordStream.Json
