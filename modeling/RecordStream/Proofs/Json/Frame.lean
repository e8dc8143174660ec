import RecordStream.Proofs.Json.Line
import RecordStream.Proofs.Json.Spelling
import RecordStream.Proofs.Record.Shape
import RecordStream.Proofs.Text.Utf8

/-!
Records are read back from their lines. What is written of a record holds no line end and starts
with two ASCII characters, so that the line is found whole and taken for UTF-8.
-/

namespace RecordStream.Json

open Framing

def entries (r : Record) : List Entry :=
  [⟨"id", Decimal.ofInt r.id, .int r.id⟩, ⟨"source", r.source.text string, r.source.toValue .text⟩,
    ⟨"parent", braces [⟨"child", string r.child, .text r.child⟩],
      .map [(.text "child", .text r.child)]⟩,
    ⟨"message", string r.message, .text r.message⟩]

theorem object_eq (r : Record) : object r = braces (entries r) := by
  have hcolon : Text.ofString ":" = [CodePoint.ofChar ':'] := rfl
  have hid : Text.ofString "\x7b\"id\":" = "\x7b" ++ string "id" ++ ":" := by decide
  have hsource : Text.ofString ",\"source\":" = "," ++ string "source" ++ ":" := by decide
  have hparent : Text.ofString ",\"parent\":\x7b\"child\":" =
      "," ++ string "parent" ++ ":" ++ "\x7b" ++ string "child" ++ ":" := by decide
  have hmessage : Text.ofString "\x7d,\"message\":" = "\x7d" ++ "," ++ string "message" ++ ":" := by
    decide
  rw [object, hid, hsource, hparent, hmessage]
  simp [braces, entries, Entry.written, Text.join, hcolon]

theorem exists_object_eq (r : Record) : ∃ t, object r = "\x7b\"id\":" ++ t := by
  rw [object]
  simp only [List.append_assoc]
  exact ⟨_, rfl⟩

theorem read_object {r : Record} (h : Decimal.fits r.id) : read (object r) = .ok r.toValue := by
  have hsource : Spells 1 (r.source.text string) (r.source.toValue .text) := by
    cases r.source with
    | value s => exact string_spells s
    | blank => exact brackets_spell
  have hchild : ∀ e ∈ [(⟨"child", string r.child, .text r.child⟩ : Entry)],
      Spells 1 e.text e.value := by
    intro e he
    rw [List.mem_singleton.1 he]
    exact string_spells r.child
  have hparent : Spells 3 (braces [⟨"child", string r.child, .text r.child⟩])
      (.map [(.text "child", .text r.child)]) := braces_spell hchild (by simp)
  have hentries : ∀ e ∈ entries r, Spells 3 e.text e.value := by
    simp only [entries, List.forall_mem_cons, List.not_mem_nil, false_implies, implies_true,
      and_true]
    exact ⟨(integer_spells h).mono (by decide), hsource.mono (by decide), hparent,
      (string_spells r.message).mono (by decide)⟩
  have hfuel : 3 + (entries r).length + 1 ≤ 2 * (object r).length + 2 := by
    obtain ⟨t, ht⟩ := exists_object_eq r
    have hfront : (Text.ofString "\x7b\"id\":").length = 6 := rfl
    have hentries : (entries r).length = 4 := rfl
    rw [ht, List.length_append, hfront, hentries]
    omega
  have hvalue := braces_spell hentries (by simp [entries]) _ [] hfuel closes_nil
  rw [← object_eq, List.append_nil] at hvalue
  rw [read, hvalue]
  rfl

/-! What is not written. -/

theorem hasSurrogate_object (r : Record) : (object r).hasSurrogate = false ↔ r.Plain := by
  have hid := Decimal.hasSurrogate_ofInt r.id
  unfold Record.Plain Record.texts object
  cases r.source with
  | value s => simp [Given.text, hid, hasSurrogate_string]
  | blank => simp [Given.text, hid, hasSurrogate_string]

theorem blank_le_of_mem_object {r : Record} {c : CodePoint} (h : c ∈ object r) :
    0x20 ≤ c.val := by
  have hliteral : ∀ s ∈ ["\x7b\"id\":", ",\"source\":", "[]", ",\"parent\":\x7b\"child\":",
      "\x7d,\"message\":", "\x7d"], ∀ c ∈ Text.ofString s, 0x20 ≤ c.val := by
    decide
  have hsource (h : c ∈ r.source.text string) : 0x20 ≤ c.val := by
    cases hsource : r.source with
    | value s =>
      rw [hsource] at h
      exact blank_le_of_mem_string h
    | blank =>
      rw [hsource] at h
      exact hliteral _ (by simp) c h
  simp only [object, List.mem_append] at h
  rcases h with (((((((h | h) | h) | h) | h) | h) | h) | h) | h
  · exact hliteral _ (by simp) c h
  · exact (Decimal.ascii_of_mem_ofInt h).1
  · exact hliteral _ (by simp) c h
  · exact hsource h
  · exact hliteral _ (by simp) c h
  · exact blank_le_of_mem_string h
  · exact hliteral _ (by simp) c h
  · exact blank_le_of_mem_string h
  · exact hliteral _ (by simp) c h

theorem blank_le_of_mem_line {r : Record} {b : UInt8} (h : b ∈ Utf8.bytes (object r)) :
    0x20 ≤ b.toNat :=
  Utf8.blank_le_of_mem_bytes (fun _ hc => blank_le_of_mem_object hc) h

/-! Lines. -/

theorem readLine_object {r : Record} (h : Decimal.fits r.id) :
    readLine (Utf8.bytes (object r)) = .ok r.toValue := by
  have hscheme : schemeOf (Utf8.bytes (object r)) = .utf8 := by
    obtain ⟨t, ht⟩ := exists_object_eq r
    rw [ht]
    rfl
  rw [readLine, textOf, hscheme]
  simp only [Utf8.decodeLenient_bytes, read_object h]

theorem finishLine_object {r : Record} (h : Decimal.fits r.id) :
    finishLine (Utf8.bytes (object r)) = .object r.toValue := by
  have hblank : (Utf8.bytes (object r)).all isBlankByte = false := by
    obtain ⟨t, ht⟩ := exists_object_eq r
    rw [ht]
    rfl
  simp [finishLine, hblank, readLine_object h]

theorem frame_eq_ok_iff {r : Record} {bytes : Bytes} : frame r = .ok bytes ↔
    r.Plain ∧ Decimal.fits r.id ∧ Utf8.bytes (object r) ++ [0x0A] = bytes := by
  unfold frame
  split_ifs with hfits
  · cases h : Utf8.encode (object r) with
    | ok b =>
      obtain ⟨hplain, rfl⟩ := Utf8.encode_eq_ok_iff.1 h
      simp [(hasSurrogate_object r).1 hplain, hfits]
    | error u =>
      have hsurrogate := Utf8.hasSurrogate_of_encode_eq_error h
      have hplain : ¬r.Plain := by
        intro hplain
        rw [(hasSurrogate_object r).2 hplain] at hsurrogate
        cases hsurrogate
      simp [hplain]
  · simp [hfits]

theorem frame_eq_error {r : Record} {fault : EncodeFault} (h : frame r = .error fault) :
    Decimal.fits r.id = false ∨ ∃ u, fault = .surrogate u := by
  unfold frame at h
  split_ifs at h with hfits
  · cases hencode : Utf8.encode (object r) with
    | ok bytes => simp [hencode] at h
    | error u =>
      rw [hencode] at h
      cases h
      exact .inr ⟨u, rfl⟩
  · exact .inl (by simpa using hfits)

theorem frame_isOk_iff {r : Record} :
    (∃ bytes, frame r = .ok bytes) ↔ r.Plain ∧ Decimal.fits r.id := by
  simp [frame_eq_ok_iff]

theorem frame_whole {r : Record} {bytes : Bytes} (h : frame r = .ok bytes) :
    framing.Whole bytes r.toValue := by
  obtain ⟨-, hfits, rfl⟩ := frame_eq_ok_iff.1 h
  have hend : 0x0A ∉ Utf8.bytes (object r) := by
    intro hmem
    have hle := blank_le_of_mem_line hmem
    revert hle
    decide
  have hcourse := course_line hend framing.start
  rw [lineOf_start, List.nil_append, finishLine_object hfits] at hcourse
  exact hcourse

end RecordStream.Json
