import Mathlib.Tactic.SplitIfs
import RecordStream.Wire.Json.Reader
import RecordStream.Wire.Json.Writer

/-!
Strings are read back. An escape stands for the code point that it was written for, whatever comes
behind it, so a string ends at the quote that was put behind its code points. Nothing that is
written is a control character.
-/

namespace RecordStream.Json

/-! Control characters without a letter. -/

private theorem lower_control : ∀ n < 0x20, Hexadecimal.lower 4 n =
    [Hexadecimal.digitLower 0, Hexadecimal.digitLower 0, Hexadecimal.digitLower (n / 16),
      Hexadecimal.digitLower (n % 16)] := by
  decide

private theorem hexDigit?_digitLower :
    ∀ d < 16, hexDigit? (Hexadecimal.digitLower d) = some d := by
  decide

theorem hexUnit?_control {n : Nat} (hn : n < 0x20) :
    hexUnit? (Hexadecimal.digitLower 0) (Hexadecimal.digitLower 0)
      (Hexadecimal.digitLower (n / 16)) (Hexadecimal.digitLower (n % 16)) = some n := by
  have hhigh := hexDigit?_digitLower (n / 16) (by omega)
  have hlow := hexDigit?_digitLower (n % 16) (Nat.mod_lt _ (by decide))
  have hzero := hexDigit?_digitLower 0 (by decide)
  simp only [hexUnit?, hzero, hhigh, hlow, bind, Option.bind, pure]
  congr 1
  omega

/-! What is written of a code point. -/

theorem letterEscape?_eq_some {c : CodePoint} {letter : Char} (h : letterEscape? c = some letter) :
    letterValue? (CodePoint.ofChar letter) = some c ∧
      (CodePoint.ofChar letter).is 'u' = false := by
  unfold letterEscape? at h
  split_ifs at h with hquote hbackslash hline hreturn htab hback hpage <;> cases h
  · exact ⟨congrArg some (CodePoint.ext (eq_of_beq hquote).symm), by decide⟩
  · exact ⟨congrArg some (CodePoint.ext (eq_of_beq hbackslash).symm), by decide⟩
  · exact ⟨congrArg some (CodePoint.ext (eq_of_beq hline).symm), by decide⟩
  · exact ⟨congrArg some (CodePoint.ext (eq_of_beq hreturn).symm), by decide⟩
  · exact ⟨congrArg some (CodePoint.ext (eq_of_beq htab).symm), by decide⟩
  · exact ⟨congrArg some (CodePoint.ext hback.symm), by decide⟩
  · exact ⟨congrArg some (CodePoint.ext hpage.symm), by decide⟩

theorem letterEscape?_eq_none {c : CodePoint} (h : letterEscape? c = none) :
    c.is '"' = false ∧ c.is '\\' = false := by
  unfold letterEscape? at h
  split_ifs at h with hquote hbackslash
  exact ⟨eq_false_of_ne_true hquote, eq_false_of_ne_true hbackslash⟩

theorem stringFrom_backslash {v : CodePoint} {back : Text} (opening done front : Text)
    (hfront : front ≠ []) (h : escapeAt (front ++ back) = .ok (v, front.length)) :
    stringFrom opening done 0 (CodePoint.ofChar '\\' :: (front ++ back)) =
      stringFrom opening (v :: done) 0 back := by
  have hskip (front : Text) : stringFrom opening (v :: done) front.length (front ++ back) =
      stringFrom opening (v :: done) 0 back := by
    induction front with
    | nil => rfl
    | cons c front ih => exact ih
  rw [stringFrom, if_neg (by decide), if_pos (by decide), if_neg (by simp [hfront]), h]
  exact hskip front

theorem stringFrom_escape (opening done : Text) (c : CodePoint) {next : Text} (hnext : next ≠ []) :
    stringFrom opening done 0 (escape c ++ next) = stringFrom opening (c :: done) 0 next := by
  unfold escape
  cases h : letterEscape? c with
  | some letter =>
    obtain ⟨hvalue, hu⟩ := letterEscape?_eq_some h
    refine stringFrom_backslash opening done [CodePoint.ofChar letter] (by simp) ?_
    rw [List.singleton_append, escapeAt, hu, if_neg (by decide), hvalue]
    rfl
  | none =>
    obtain ⟨hquote, hbackslash⟩ := letterEscape?_eq_none h
    dsimp only
    split_ifs with hcontrol
    · obtain ⟨d, next, rfl⟩ := List.exists_cons_of_ne_nil hnext
      rw [lower_control c.val hcontrol]
      refine stringFrom_backslash opening done (CodePoint.ofChar 'u' :: [Hexadecimal.digitLower 0,
        Hexadecimal.digitLower 0, Hexadecimal.digitLower (c.val / 16),
        Hexadecimal.digitLower (c.val % 16)]) (by simp) ?_
      have hunit : unitAt? ([Hexadecimal.digitLower 0, Hexadecimal.digitLower 0,
          Hexadecimal.digitLower (c.val / 16), Hexadecimal.digitLower (c.val % 16)] ++ d :: next) =
          some c.val := hexUnit?_control hcontrol
      have hhigh : Utf16.isHigh c.val = false := by
        simp only [Utf16.isHigh, Bool.and_eq_false_iff, decide_eq_false_iff_not]
        omega
      rw [List.cons_append, escapeAt, if_pos (by decide), hunit]
      simp only [hhigh]
      rw [if_neg (by decide), show CodePoint.ofNat c.val = c from
        CodePoint.ext (CodePoint.val_ofNat c.isLt)]
      rfl
    · rw [List.singleton_append, stringFrom, hquote, hbackslash, if_neg (by decide),
        if_neg (by decide), if_neg (by omega)]

theorem stringFrom_escapes (opening done t rest : Text) :
    stringFrom opening done 0 (t.flatMap escape ++ CodePoint.ofChar '"' :: rest) =
      .ok (done.reverse ++ t, rest) := by
  induction t generalizing done with
  | nil =>
    rw [List.flatMap_nil, List.nil_append, stringFrom, if_pos (by decide), List.append_nil]
  | cons c t ih =>
    rw [List.flatMap_cons, List.append_assoc, stringFrom_escape _ _ _ (by simp), ih,
      List.reverse_cons, List.append_assoc, List.singleton_append]

/-! What is not written. -/

private theorem ascii_of_letterEscape? {c : CodePoint} {letter : Char}
    (h : letterEscape? c = some letter) :
    c.val < 0x80 ∧ 0x20 ≤ letter.toNat ∧ letter.toNat < 0x80 := by
  unfold letterEscape? at h
  split_ifs at h with hquote hbackslash hline hreturn htab hback hpage <;> cases h
  · exact ⟨by rw [eq_of_beq hquote]; decide, by decide⟩
  · exact ⟨by rw [eq_of_beq hbackslash]; decide, by decide⟩
  · exact ⟨by rw [eq_of_beq hline]; decide, by decide⟩
  · exact ⟨by rw [eq_of_beq hreturn]; decide, by decide⟩
  · exact ⟨by rw [eq_of_beq htab]; decide, by decide⟩
  · exact ⟨by rw [hback]; decide, by decide⟩
  · exact ⟨by rw [hpage]; decide, by decide⟩

private theorem digitLower_ascii : ∀ d < 16,
    0x20 ≤ (Hexadecimal.digitLower d).val ∧ (Hexadecimal.digitLower d).val < 0x80 := by
  decide

theorem mem_escape {c d : CodePoint} (h : d ∈ escape c) :
    (d = c ∧ 0x20 ≤ c.val) ∨ (c.val < 0x80 ∧ 0x20 ≤ d.val ∧ d.val < 0x80) := by
  unfold escape at h
  cases hletter : letterEscape? c with
  | some letter =>
    obtain ⟨hc, hlow, hhigh⟩ := ascii_of_letterEscape? hletter
    simp only [hletter, List.mem_cons, List.not_mem_nil, or_false] at h
    rcases h with rfl | rfl
    · exact .inr ⟨hc, by decide, by decide⟩
    · exact .inr ⟨hc, hlow, hhigh⟩
  | none =>
    simp only [hletter] at h
    split_ifs at h with hcontrol
    · rw [lower_control c.val hcontrol] at h
      refine .inr ⟨by omega, ?_⟩
      rcases List.mem_append.1 h with h | h
      · have hfront : ∀ d ∈ Text.ofString "\\u", 0x20 ≤ d.val ∧ d.val < 0x80 := by decide
        exact hfront d h
      · simp only [List.mem_cons, List.not_mem_nil, or_false] at h
        rcases h with rfl | rfl | rfl | rfl <;> exact digitLower_ascii _ (by omega)
    · rw [List.mem_singleton.1 h]
      exact .inl ⟨rfl, by omega⟩

theorem escape_of_isSurrogate {c : CodePoint} (h : c.isSurrogate) : escape c = [c] := by
  have hrange : 0xD800 ≤ c.val ∧ c.val < 0xE000 := by simpa [CodePoint.isSurrogate] using h
  cases hletter : letterEscape? c with
  | some letter =>
    have hascii := (ascii_of_letterEscape? hletter).1
    omega
  | none => rw [escape, hletter, if_neg (by omega)]

theorem hasSurrogate_escape (c : CodePoint) : (escape c).hasSurrogate = c.isSurrogate := by
  cases h : c.isSurrogate with
  | true => simp [escape_of_isSurrogate h, Text.hasSurrogate, h]
  | false =>
    rw [Text.hasSurrogate, List.any_eq_false]
    intro d hd
    obtain ⟨rfl, -⟩ | ⟨-, -, hascii⟩ := mem_escape hd
    · simp [h]
    · simp only [CodePoint.isSurrogate, Bool.and_eq_true, decide_eq_true_eq]
      omega

theorem hasSurrogate_string (t : Text) : (string t).hasSurrogate = t.hasSurrogate := by
  have hescape (c : CodePoint) : (escape c).any CodePoint.isSurrogate = c.isSurrogate :=
    hasSurrogate_escape c
  have hquote : (CodePoint.ofChar '"').isSurrogate = false := rfl
  simp [string, Text.hasSurrogate, List.any_flatMap, hescape, hquote]

theorem blank_le_of_mem_string {t : Text} {c : CodePoint} (h : c ∈ string t) : 0x20 ≤ c.val := by
  simp only [string, List.cons_append, List.mem_cons, List.mem_append, List.mem_flatMap,
    List.not_mem_nil, or_false] at h
  rcases h with rfl | ⟨d, -, hd⟩ | rfl
  · decide
  · obtain ⟨rfl, hlow⟩ | ⟨-, hlow, -⟩ := mem_escape hd <;> exact hlow
  · decide

end RecordStream.Json
