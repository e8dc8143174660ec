import RecordStream.Proofs.Json.Frame

/-! How long a line is. A code point takes up six at most, so few if the texts are short. -/

namespace RecordStream.Json

theorem length_lower_control : ∀ n < 0x20, (Hexadecimal.lower 4 n).length = 4 := by
  decide

theorem length_escape_le (c : CodePoint) : (escape c).length ≤ 6 := by
  unfold escape
  cases letterEscape? c with
  | some letter => simp
  | none =>
    dsimp only
    split_ifs with hcontrol
    · have hfront : (Text.ofString "\\u").length = 2 := rfl
      rw [List.length_append, hfront, length_lower_control c.val hcontrol]
    · simp

theorem length_string_le (t : Text) : (string t).length ≤ 6 * t.length + 2 := by
  have hescapes : (t.flatMap escape).length ≤ 6 * t.length := by
    induction t with
    | nil => simp
    | cons c t ih =>
      have hescape := length_escape_le c
      rw [List.flatMap_cons, List.length_append, List.length_cons]
      omega
  simpa [string] using hescapes

theorem length_object (r : Record) :
    (object r).length = (Decimal.ofInt r.id).length + (r.source.text string).length
      + (string r.child).length + (string r.message).length + 48 := by
  have hid : (Text.ofString "\x7b\"id\":").length = 6 := rfl
  have hsource : (Text.ofString ",\"source\":").length = 10 := rfl
  have hparent : (Text.ofString ",\"parent\":\x7b\"child\":").length = 19 := rfl
  have hmessage : (Text.ofString "\x7d,\"message\":").length = 12 := rfl
  have hend : (Text.ofString "\x7d").length = 1 := rfl
  simp only [object, List.length_append, hid, hsource, hparent, hmessage, hend]
  omega

theorem length_frame_le {r : Record} {bytes : Bytes} (h : frame r = .ok bytes) :
    bytes.length ≤ 4 * (object r).length + 1 := by
  obtain ⟨-, -, rfl⟩ := frame_eq_ok_iff.1 h
  have hbytes := Utf8.length_bytes_le (object r)
  rw [List.length_append, List.length_singleton]
  omega

end RecordStream.Json
