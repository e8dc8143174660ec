import Mathlib.Data.List.TakeWhile
import Mathlib.Tactic.SplitIfs
import RecordStream.Text.Utf8

/-!
UTF-8 is read back. Every code point that the reader admits is recovered from its bytes, so texts
are, one code point after the other. Strict reading admits all but surrogates, and what it accepts is
what is written of texts that hold none of them.
-/

namespace RecordStream

namespace Text

@[simp] theorem hasSurrogate_append (s t : Text) :
    Text.hasSurrogate (s ++ t) = (s.hasSurrogate || t.hasSurrogate) :=
  List.any_append

@[simp] theorem hasSurrogate_ofString (s : String) : (ofString s).hasSurrogate = false := by
  rw [hasSurrogate, List.any_eq_false]
  intro c hc
  obtain ⟨x, -, rfl⟩ := List.mem_map.1 hc
  have hvalid : x.toNat.isValidChar := x.valid
  have hval : (CodePoint.ofChar x).val = x.toNat := rfl
  simp only [Nat.isValidChar] at hvalid
  simp only [CodePoint.isSurrogate, hval, Bool.and_eq_true, decide_eq_true_eq]
  omega

end Text

namespace Utf8

theorem toNat_ofNat {n : Nat} (h : n < 256) : (UInt8.ofNat n).toNat = n :=
  UInt8.toNat_ofNat_of_lt h

theorem isTail_ofNat (n : Nat) : isTail (UInt8.ofNat (0x80 + n % 64)) = true := by
  have hn : n % 64 < 64 := Nat.mod_lt _ (by decide)
  simp only [isTail, toNat_ofNat (show 0x80 + n % 64 < 256 by omega), Bool.and_eq_true,
    decide_eq_true_eq]
  omega

theorem tailBits_ofNat (n : Nat) : tailBits (UInt8.ofNat (0x80 + n % 64)) = n % 64 := by
  have hn : n % 64 < 64 := Nat.mod_lt _ (by decide)
  rw [tailBits, toNat_ofNat (by omega)]
  omega

def admits (lenient : Bool) (c : CodePoint) : Bool := lenient || !c.isSurrogate

theorem decodeFrom_encodeCodePoint {lenient : Bool} {c : CodePoint} (h : admits lenient c)
    (position : Nat) (done : Text) (rest : Bytes) :
    decodeFrom lenient position done (encodeCodePoint c ++ rest) =
      decodeFrom lenient (position + (encodeCodePoint c).length) (c :: done) rest := by
  have hc : ∀ n, n = c.val → CodePoint.ofNat n = c := by
    rintro _ rfl
    exact CodePoint.ext (CodePoint.val_ofNat c.isLt)
  have hmax := c.isLt
  unfold encodeCodePoint
  dsimp only
  split_ifs with h₁ h₂ h₃
  · have hlead := toNat_ofNat (show c.val < 256 by omega)
    rw [List.singleton_append, decodeFrom.eq_def]
    simp only [hlead, if_pos h₁, hc c.val rfl]
    rfl
  · have hlead := toNat_ofNat (show 0xC0 + c.val / 64 < 256 by omega)
    rw [List.cons_append, List.singleton_append, decodeFrom.eq_def]
    simp only [hlead, isTail_ofNat, tailBits_ofNat]
    rw [if_neg (by omega), if_neg (by omega), if_pos (by omega), if_pos trivial, hc _ (by omega)]
    rfl
  · have hlead := toNat_ofNat (show 0xE0 + c.val / 4096 < 256 by omega)
    have hsecond := toNat_ofNat (show 0x80 + c.val / 64 % 64 < 256 by omega)
    have hadmits : ¬((0xE0 + c.val / 4096 = 0xED ∧ 0xA0 ≤ 0x80 + c.val / 64 % 64) ∧
        !lenient) := by
      rintro ⟨hrange, hstrict⟩
      cases lenient
      · simp [admits, CodePoint.isSurrogate] at h
        omega
      · cases hstrict
    rw [List.cons_append, List.cons_append, List.singleton_append, decodeFrom.eq_def]
    simp only [hlead, hsecond, isTail_ofNat, tailBits_ofNat]
    rw [if_neg (by omega), if_neg (by omega), if_neg (by omega), if_pos (by omega), if_neg,
      if_pos trivial, hc _ (by omega)]
    · rfl
    · rintro (htail | hover | hsurrogate)
      · cases htail
      · omega
      · exact hadmits hsurrogate
  · have hlead := toNat_ofNat (show 0xF0 + c.val / 262144 < 256 by omega)
    have hsecond := toNat_ofNat (show 0x80 + c.val / 4096 % 64 < 256 by omega)
    rw [List.cons_append, List.cons_append, List.cons_append, List.singleton_append,
      decodeFrom.eq_def]
    simp only [hlead, hsecond, isTail_ofNat, tailBits_ofNat]
    rw [if_neg (by omega), if_neg (by omega), if_neg (by omega), if_neg (by omega), if_neg,
      if_neg (by decide), if_pos trivial, hc _ (by omega)]
    · rfl
    · rintro (htail | hover | hhigh)
      · cases htail
      · omega
      · omega

theorem decodeFrom_bytes {lenient : Bool} {t : Text} (h : t.all (admits lenient))
    (position : Nat) (done : Text) :
    decodeFrom lenient position done (bytes t) = .ok (done.reverse ++ t) := by
  induction t generalizing position done with
  | nil => simp [bytes, decodeFrom]
  | cons c t ih =>
    rw [List.all_cons, Bool.and_eq_true] at h
    rw [bytes, List.flatMap_cons, decodeFrom_encodeCodePoint h.1]
    rw [bytes] at ih
    rw [ih h.2, List.reverse_cons, List.append_assoc, List.singleton_append]

theorem decode_bytes {t : Text} (h : t.hasSurrogate = false) : decode (bytes t) = .ok t := by
  apply decodeFrom_bytes
  simpa [admits, Text.hasSurrogate] using h

theorem decodeLenient_bytes (t : Text) : decodeLenient (bytes t) = .ok t := by
  apply decodeFrom_bytes
  simp [admits]

/-! Strict reading undone: the bytes that were read are those that would be written. -/

theorem isTail_iff {b : UInt8} : isTail b ↔ 0x80 ≤ b.toNat ∧ b.toNat < 0xC0 := by
  simp [isTail]

theorem ofNat_eq_of_toNat {n : Nat} {b : UInt8} (h : n = b.toNat) : UInt8.ofNat n = b := by
  rw [h, UInt8.ofNat_toNat]

/-- The code point of this number is no surrogate, and its bytes are these. -/
def Encodes (n : Nat) (bytes : Bytes) : Prop :=
  (CodePoint.ofNat n).isSurrogate = false ∧ encodeCodePoint (CodePoint.ofNat n) = bytes

theorem Encodes.intro {n : Nat} {bytes : Bytes} (hn : n < 0x110000) (h : n < 0xD800 ∨ 0xE000 ≤ n)
    (hbytes : ∀ c : CodePoint, c.val = n → encodeCodePoint c = bytes) : Encodes n bytes := by
  have hval := CodePoint.val_ofNat hn
  refine ⟨?_, hbytes _ hval⟩
  simp only [CodePoint.isSurrogate, hval, Bool.and_eq_false_iff, decide_eq_false_iff_not]
  omega

theorem encodes_one {a : UInt8} (ha : a.toNat < 0x80) : Encodes a.toNat [a] := by
  apply Encodes.intro (by omega) (by omega)
  intro c hc
  simp only [encodeCodePoint, hc, if_pos ha, UInt8.ofNat_toNat]

theorem encodes_two {a b : UInt8} (ha : 0xC2 ≤ a.toNat) (hlead : a.toNat < 0xE0) (hb : isTail b) :
    Encodes ((a.toNat - 0xC0) * 64 + tailBits b) [a, b] := by
  have hb := isTail_iff.1 hb
  unfold tailBits
  apply Encodes.intro (by omega) (by omega)
  intro c hc
  simp only [encodeCodePoint, hc]
  rw [if_neg (by omega), if_pos (by omega)]
  congr <;> apply ofNat_eq_of_toNat <;> omega

theorem encodes_three {a b c : UInt8} (ha : 0xE0 ≤ a.toNat) (hlead : a.toNat < 0xF0)
    (hb : isTail b) (hc : isTail c) (hover : a.toNat = 0xE0 → 0xA0 ≤ b.toNat)
    (hsurrogate : a.toNat = 0xED → b.toNat < 0xA0) :
    Encodes ((a.toNat - 0xE0) * 4096 + tailBits b * 64 + tailBits c) [a, b, c] := by
  have hb := isTail_iff.1 hb
  have hc := isTail_iff.1 hc
  unfold tailBits
  apply Encodes.intro (by omega) (by omega)
  intro c hc
  simp only [encodeCodePoint, hc]
  rw [if_neg (by omega), if_neg (by omega), if_pos (by omega)]
  congr <;> apply ofNat_eq_of_toNat <;> omega

theorem encodes_four {a b c d : UInt8} (ha : 0xF0 ≤ a.toNat) (hlead : a.toNat < 0xF5)
    (hb : isTail b) (hc : isTail c) (hd : isTail d) (hover : a.toNat = 0xF0 → 0x90 ≤ b.toNat)
    (hmax : a.toNat = 0xF4 → b.toNat < 0x90) :
    Encodes ((a.toNat - 0xF0) * 262144 + tailBits b * 4096 + tailBits c * 64 + tailBits d)
      [a, b, c, d] := by
  have hb := isTail_iff.1 hb
  have hc := isTail_iff.1 hc
  have hd := isTail_iff.1 hd
  unfold tailBits
  apply Encodes.intro (by omega) (by omega)
  intro c hc
  simp only [encodeCodePoint, hc]
  rw [if_neg (by omega), if_neg (by omega), if_neg (by omega)]
  congr <;> apply ofNat_eq_of_toNat <;> omega

structure Reads (t done : Text) (b : Bytes) (c : CodePoint) (left : Bytes) : Prop where
  plain : c.isSurrogate = false
  split : b = encodeCodePoint c ++ left
  next : ∃ position, decodeFrom false position (c :: done) left = .ok t

theorem Encodes.reads {n : Nat} {front left : Bytes} (hn : Encodes n front) {t done : Text}
    {position : Nat} (h : decodeFrom false position (CodePoint.ofNat n :: done) left = .ok t) :
    ∃ c rest, Reads t done (front ++ left) c rest :=
  ⟨CodePoint.ofNat n, left, hn.1, by rw [hn.2], position, h⟩

theorem reads_of_decodeFrom {position : Nat} {done t : Text} {a : UInt8} {rest : Bytes}
    (h : decodeFrom false position done (a :: rest) = .ok t) :
    ∃ c left, Reads t done (a :: rest) c left := by
  rw [decodeFrom.eq_def] at h
  dsimp only at h
  -- The lead byte tells how many bytes there are; all other ways end in a fault.
  split at h
  · next hone => exact (encodes_one hone).reads h
  split at h
  · cases h
  split at h
  · cases h
  next b _ =>
  split at h
  · split at h
    · next hb => exact (encodes_two (by omega) (by omega) hb).reads h
    · cases h
  split at h
  · split at h
    · cases h
    next hsecond =>
    simp only [Bool.not_eq_true', Bool.not_false, and_true, not_or, not_and,
      Bool.not_eq_false] at hsecond
    obtain ⟨hb, hover, hsurrogate⟩ := hsecond
    split at h
    · split at h <;> cases h
    next c _ =>
    split at h
    · next hc =>
      exact (encodes_three (by omega) (by omega) hb hc (by omega) (by omega)).reads h
    · split at h <;> cases h
  split at h
  · cases h
  next hsecond =>
  simp only [Bool.not_eq_true', not_or, not_and, Bool.not_eq_false] at hsecond
  obtain ⟨hb, hover, hmax⟩ := hsecond
  split at h
  · cases h
  next c _ =>
  split at h
  · cases h
  next hc =>
  simp only [Bool.not_eq_true', Bool.not_eq_false] at hc
  split at h
  · cases h
  next d _ =>
  split at h
  · next hd =>
    exact (encodes_four (by omega) (by omega) hb hc hd (by omega) (by omega)).reads h
  · cases h

theorem length_encodeCodePoint_pos (c : CodePoint) : 0 < (encodeCodePoint c).length := by
  unfold encodeCodePoint
  dsimp only
  split_ifs <;> simp

theorem exists_of_decodeFrom {b : Bytes} {position : Nat} {done t : Text}
    (h : decodeFrom false position done b = .ok t) :
    ∃ back, t = done.reverse ++ back ∧ back.hasSurrogate = false ∧ bytes back = b := by
  match b with
  | [] =>
    rw [decodeFrom] at h
    cases h
    exact ⟨[], (List.append_nil _).symm, rfl, rfl⟩
  | a :: rest =>
    obtain ⟨c, left, hplain, hsplit, position', hnext⟩ := reads_of_decodeFrom h
    have hpos := length_encodeCodePoint_pos c
    have hshorter : left.length < (a :: rest).length := by
      rw [hsplit, List.length_append]
      omega
    obtain ⟨back, rfl, hback, hbytes⟩ := exists_of_decodeFrom hnext
    refine ⟨c :: back, ?_, ?_, ?_⟩
    · rw [List.reverse_cons, List.append_assoc, List.singleton_append]
    · rw [Text.hasSurrogate, List.any_cons, hplain]
      exact hback
    · rw [hsplit, ← hbytes, bytes, bytes, List.flatMap_cons]
termination_by b.length
decreasing_by exact hshorter

theorem decode_eq_ok_iff {b : Bytes} {t : Text} :
    decode b = .ok t ↔ t.hasSurrogate = false ∧ bytes t = b := by
  constructor
  · intro h
    obtain ⟨back, rfl, hplain, hbytes⟩ := exists_of_decodeFrom h
    exact ⟨hplain, hbytes⟩
  · rintro ⟨hplain, rfl⟩
    exact decode_bytes hplain

theorem unencodable?_eq_none_iff {t : Text} : unencodable? t = none ↔ t.hasSurrogate = false := by
  have hdrop : t.dropWhile (!CodePoint.isSurrogate ·) = [] ↔ t.hasSurrogate = false := by
    simp [List.dropWhile_eq_nil_iff, Text.hasSurrogate]
  rw [← hdrop]
  unfold unencodable?
  split <;> simp_all

theorem encode_eq_ok {t : Text} (h : t.hasSurrogate = false) : encode t = .ok (bytes t) := by
  rw [encode, unencodable?_eq_none_iff.2 h]

theorem hasSurrogate_of_encode_eq_error {t : Text} {u : Unencodable} (h : encode t = .error u) :
    t.hasSurrogate = true := by
  cases hplain : t.hasSurrogate with
  | true => rfl
  | false =>
    rw [encode_eq_ok hplain] at h
    cases h

theorem encode_eq_ok_iff {t : Text} {b : Bytes} :
    encode t = .ok b ↔ t.hasSurrogate = false ∧ bytes t = b := by
  constructor
  · intro h
    unfold encode at h
    split at h
    · rename_i hnone
      exact ⟨unencodable?_eq_none_iff.1 hnone, Except.ok.inj h⟩
    · cases h
  · rintro ⟨h, rfl⟩
    exact encode_eq_ok h

@[simp] theorem bytes_nil : bytes [] = [] := rfl

@[simp] theorem bytes_cons (c : CodePoint) (t : Text) :
    bytes (c :: t) = encodeCodePoint c ++ bytes t := rfl

theorem bytes_append (s t : Text) : bytes (s ++ t) = bytes s ++ bytes t :=
  List.flatMap_append

theorem length_encodeCodePoint_le (c : CodePoint) : (encodeCodePoint c).length ≤ 4 := by
  unfold encodeCodePoint
  dsimp only
  split_ifs <;> simp

theorem length_bytes_le (t : Text) : (bytes t).length ≤ 4 * t.length := by
  induction t with
  | nil => simp
  | cons c t ih =>
    have hc := length_encodeCodePoint_le c
    simp only [bytes_cons, List.length_append, List.length_cons]
    omega

theorem blank_le_of_mem_encodeCodePoint {c : CodePoint} (hc : 0x20 ≤ c.val) {b : UInt8}
    (hb : b ∈ encodeCodePoint c) : 0x20 ≤ b.toNat := by
  have hmax := c.isLt
  unfold encodeCodePoint at hb
  dsimp only at hb
  split_ifs at hb
  · rw [List.mem_singleton.1 hb, toNat_ofNat (by omega)]
    exact hc
  · simp only [List.mem_cons, List.not_mem_nil, or_false] at hb
    rcases hb with rfl | rfl <;> rw [toNat_ofNat (by omega)] <;> omega
  · simp only [List.mem_cons, List.not_mem_nil, or_false] at hb
    rcases hb with rfl | rfl | rfl <;> rw [toNat_ofNat (by omega)] <;> omega
  · simp only [List.mem_cons, List.not_mem_nil, or_false] at hb
    rcases hb with rfl | rfl | rfl | rfl <;> rw [toNat_ofNat (by omega)] <;> omega

theorem blank_le_of_mem_bytes {t : Text} (ht : ∀ c ∈ t, 0x20 ≤ c.val) {b : UInt8}
    (hb : b ∈ bytes t) : 0x20 ≤ b.toNat := by
  obtain ⟨c, hc, hb⟩ := List.mem_flatMap.1 hb
  exact blank_le_of_mem_encodeCodePoint (ht c hc) hb

end Utf8

end RecordStream
