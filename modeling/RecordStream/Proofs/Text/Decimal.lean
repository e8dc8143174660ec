import Mathlib.Data.List.Induction
import RecordStream.Text.Decimal

/-!
Decimal numerals are read back. The digits that are written for a number start with a zero only if
the number is zero, and their count tells between which powers of ten it lies. A numeral is such
digits, perhaps behind more zeros.
-/

namespace RecordStream.Decimal

theorem value_ofNat (n : Nat) : value (ofNat n) = n := by
  have h : value (ofNat n) = Nat.ofDigitChars 10 (Nat.toDigits 10 n) 0 := by
    rw [value, ofNat, List.foldl_map]
    rfl
  rw [h, Nat.ofDigitChars_ten_toDigits]

theorem isDigit_iff {c : CodePoint} : c.isDigit ↔ 0x30 ≤ c.val ∧ c.val ≤ 0x39 := by
  simp [CodePoint.isDigit]

theorem isDigit_of_mem_ofNat {n : Nat} {c : CodePoint} (h : c ∈ ofNat n) : c.isDigit := by
  obtain ⟨x, hx, rfl⟩ := List.mem_map.1 h
  have hdigit : 0x30 ≤ x.toNat ∧ x.toNat ≤ 0x39 := by
    simpa [Char.isDigit, UInt32.le_iff_toNat_le] using
      Nat.isDigit_of_mem_toDigits (by decide) (by decide) hx
  exact isDigit_iff.2 hdigit

theorem val_ne_of_isDigit {c : CodePoint} {n : Nat} (h : c.isDigit) (hn : n < 0x30 ∨ 0x39 < n) :
    c.val ≠ n := by
  have hc := isDigit_iff.1 h
  omega

theorem is_eq_false_of_isDigit {c : CodePoint} {x : Char} (h : c.isDigit)
    (hx : x.toNat < 0x30 ∨ 0x39 < x.toNat) : c.is x = false :=
  beq_false_of_ne (val_ne_of_isDigit h hx)

theorem ofNat_ne_nil (n : Nat) : ofNat n ≠ [] := by
  simp [ofNat]

theorem exists_cons_ofNat (n : Nat) : ∃ c digits, ofNat n = c :: digits ∧ c.isDigit := by
  obtain ⟨c, digits, h⟩ := List.exists_cons_of_ne_nil (ofNat_ne_nil n)
  exact ⟨c, digits, h, isDigit_of_mem_ofNat (h ▸ List.mem_cons_self)⟩

theorem ascii_of_mem_ofInt {n : Int} {c : CodePoint} (h : c ∈ ofInt n) :
    0x20 ≤ c.val ∧ c.val < 0x80 := by
  have hdigit (h : c ∈ ofNat n.natAbs) : 0x20 ≤ c.val ∧ c.val < 0x80 := by
    have hc := isDigit_iff.1 (isDigit_of_mem_ofNat h)
    omega
  unfold ofInt at h
  split at h
  · obtain rfl | h := List.mem_cons.1 h
    · decide
    · exact hdigit h
  · exact hdigit h

theorem hasSurrogate_ofInt (n : Int) : (ofInt n).hasSurrogate = false := by
  rw [Text.hasSurrogate, List.any_eq_false]
  intro c hc
  have hascii := (ascii_of_mem_ofInt hc).2
  simp only [CodePoint.isSurrogate, Bool.and_eq_true, decide_eq_true_eq]
  omega

theorem length_ofNat_le_iff {n k : Nat} (hk : 0 < k) : (ofNat n).length ≤ k ↔ n < 10 ^ k := by
  rw [ofNat, List.length_map, Nat.length_toDigits_le_iff (by decide) hk]

theorem fits_iff {n : Int} : fits n ↔ (ofNat n.natAbs).length ≤ maxDigits :=
  decide_eq_true_iff

theorem fits_iff_natAbs_lt {n : Int} : fits n ↔ n.natAbs < 10 ^ maxDigits := by
  rw [fits_iff, length_ofNat_le_iff (by decide)]

theorem fits_natCast_iff {n : Nat} : fits n ↔ n < 10 ^ maxDigits :=
  fits_iff_natAbs_lt

theorem fits_of_natAbs_lt {n : Int} (h : n.natAbs < 2 ^ 63) : fits n := by
  refine fits_iff_natAbs_lt.2 (Nat.lt_of_lt_of_le h ?_)
  calc 2 ^ 63 ≤ 10 ^ 63 := Nat.pow_le_pow_left (by decide) _
    _ ≤ 10 ^ maxDigits := Nat.pow_le_pow_right (by decide) (by decide)

theorem length_ofInt_natCast_le {n : Nat} (h : fits n) : (ofInt n).length ≤ 4300 := by
  rw [ofInt, if_neg (by omega)]
  exact fits_iff.1 h

theorem read_ofNat {n : Int} (h : fits n) : read (ofNat n.natAbs) = .ok n.natAbs := by
  rw [read, if_pos (fits_iff.1 h), value_ofNat]

theorem ofNat_eq_append {n : Nat} (hn : 10 ≤ n) :
    ofNat n = ofNat (n / 10) ++ [CodePoint.ofChar (Nat.digitChar (n % 10))] := by
  simp [ofNat, Nat.toDigits_of_base_le (b := 10) (by decide) hn]

theorem eq_zero_of_ofNat {n : Nat} {c : CodePoint} {rest : Text} (h : ofNat n = c :: rest)
    (hc : c.is '0') : rest = [] := by
  induction n using Nat.strongRecOn generalizing rest with
  | ind n ih =>
    by_cases hn : n < 10
    · rw [ofNat, Nat.toDigits_of_lt_base hn] at h
      simp at h
      exact h.2
    · have hstep := ofNat_eq_append (Nat.le_of_not_lt hn)
      obtain ⟨c', rest', hfront⟩ := List.exists_cons_of_ne_nil (ofNat_ne_nil (n / 10))
      rw [hstep, hfront, List.cons_append] at h
      obtain ⟨rfl, rfl⟩ := List.cons.inj h
      have hnil := ih (n / 10) (by omega) hfront
      have hzero : n / 10 = 0 := by
        have hvalue := value_ofNat (n / 10)
        rw [hfront, hnil] at hvalue
        simp [value, CodePoint.is] at hvalue hc
        omega
      omega

/-! Numerals with zeros in front. -/

/-- The text is the number in decimal, perhaps behind more zeros. -/
def Spells (t : Text) (n : Nat) : Prop :=
  ∃ zeros, t = List.replicate zeros (CodePoint.ofChar '0') ++ ofNat n

theorem value_append (front back : Text) :
    value (front ++ back) = back.foldl (fun n c => 10 * n + (c.val - 0x30)) (value front) := by
  rw [value, List.foldl_append]
  rfl

theorem value_zeros (zeros : Nat) :
    value (List.replicate zeros (CodePoint.ofChar '0')) = 0 := by
  induction zeros with
  | zero => rfl
  | succ zeros ih =>
    rw [List.replicate_succ', value_append, ih]
    rfl

theorem ofChar_digitChar {c : CodePoint} (hc : c.isDigit) :
    CodePoint.ofChar (Nat.digitChar (c.val - 0x30)) = c := by
  obtain ⟨hlow, hhigh⟩ := isDigit_iff.1 hc
  have hchar := Nat.toNat_digitChar_of_lt_ten (n := c.val - 0x30) (by omega)
  apply CodePoint.ext
  exact hchar.trans (by omega)

theorem ofNat_of_isDigit {c : CodePoint} (hc : c.isDigit) : ofNat (c.val - 0x30) = [c] := by
  have hhigh := (isDigit_iff.1 hc).2
  rw [ofNat, Nat.toDigits_of_lt_base (by omega), List.map_singleton, ofChar_digitChar hc]

theorem spells_append_digit {front : Text} {n : Nat} (h : Spells front n) {c : CodePoint}
    (hc : c.isDigit) : Spells (front ++ [c]) (10 * n + (c.val - 0x30)) := by
  obtain ⟨zeros, rfl⟩ := h
  by_cases hn : n = 0
  · subst hn
    refine ⟨zeros + 1, ?_⟩
    rw [Nat.mul_zero, Nat.zero_add, ofNat_of_isDigit hc, List.replicate_succ']
    rfl
  · have hhigh := (isDigit_iff.1 hc).2
    refine ⟨zeros, ?_⟩
    rw [ofNat_eq_append (n := 10 * n + (c.val - 0x30)) (by omega),
      show (10 * n + (c.val - 0x30)) / 10 = n by omega,
      show (10 * n + (c.val - 0x30)) % 10 = c.val - 0x30 by omega, ofChar_digitChar hc,
      List.append_assoc]

theorem spells_iff {t : Text} {n : Nat} : Spells t n ↔ isNumeral t ∧ value t = n := by
  constructor
  · rintro ⟨zeros, rfl⟩
    refine ⟨?_, by rw [value_append, value_zeros, ← value, value_ofNat]⟩
    rw [isNumeral, List.all_append, Bool.and_eq_true, Bool.and_eq_true]
    refine ⟨by simp [ofNat_ne_nil], ?_, ?_⟩
    · exact List.all_eq_true.2 fun c hc => List.eq_of_mem_replicate hc ▸ rfl
    · exact List.all_eq_true.2 fun c hc => isDigit_of_mem_ofNat hc
  · rintro ⟨h, rfl⟩
    induction t using List.reverseRecOn with
    | nil => cases h
    | append_singleton front c ih =>
      simp only [isNumeral, Bool.and_eq_true, List.all_append, List.all_cons, List.all_nil,
        Bool.and_true] at h
      obtain ⟨-, hfront, hc⟩ := h
      rw [value_append, List.foldl_cons, List.foldl_nil]
      by_cases hnil : front = []
      · subst hnil
        refine ⟨0, ?_⟩
        rw [value, List.foldl_nil, Nat.mul_zero, Nat.zero_add, ofNat_of_isDigit hc]
        rfl
      · exact spells_append_digit (ih (by simp [isNumeral, hnil, hfront])) hc

theorem Spells.fits {t : Text} {n : Nat} (h : Spells t n) (hlength : t.length ≤ maxDigits) :
    fits n := by
  obtain ⟨zeros, rfl⟩ := h
  rw [List.length_append] at hlength
  exact fits_iff.2 (by rw [Int.natAbs_natCast]; omega)

theorem Spells.read {t : Text} {n : Nat} (h : Spells t n) (hlength : t.length ≤ maxDigits) :
    read t = .ok n := by
  rw [Decimal.read, if_pos hlength, (spells_iff.1 h).2]

end RecordStream.Decimal
