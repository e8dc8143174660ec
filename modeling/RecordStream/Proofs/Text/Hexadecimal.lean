import RecordStream.Text.Hexadecimal

/-!
Hexadecimal numerals of a fixed width. A number that is not too long for a width is written with as
many digits, one for each place, and a byte is known from its two digits.
-/

namespace RecordStream.Hexadecimal

def lastDigits : (width : Nat) → Nat → Text
  | 0, _ => []
  | width + 1, n => digitUpper (n / 16 ^ width % 16) :: lastDigits width n

@[simp] theorem length_lastDigits (width n : Nat) : (lastDigits width n).length = width := by
  induction width with
  | zero => rfl
  | succ width ih => rw [lastDigits, List.length_cons, ih]

theorem lastDigits_eq_map (width n : Nat) :
    lastDigits width n =
      ((List.range width).reverse.map fun place => n / 16 ^ place % 16).map digitUpper := by
  induction width with
  | zero => rfl
  | succ width ih => simp [lastDigits, List.range_succ, ih]

theorem padZeros_lastDigits {count width n : Nat} (hn : n < 16 ^ count) (h : count ≤ width) :
    Text.padZeros width (lastDigits count n) = lastDigits width n := by
  induction h with
  | refl => simp [Text.padZeros]
  | @step width h ih =>
    have hzero : n / 16 ^ width = 0 :=
      Nat.div_eq_of_lt (Nat.lt_of_lt_of_le hn (Nat.pow_le_pow_right (by decide) h))
    rw [Text.padZeros, length_lastDigits] at ih ⊢
    rw [Nat.succ_sub h, List.replicate_succ, List.cons_append, ih, lastDigits, hzero]
    rfl

theorem lt_pow_digitCount (n : Nat) : n < 16 ^ digitCount n := by
  calc n < 2 ^ (n.log2 + 1) := Nat.lt_log2_self
    _ ≤ 2 ^ (4 * digitCount n) := Nat.pow_le_pow_right (by decide) (by
      rw [digitCount]
      omega)
    _ = 16 ^ digitCount n := by rw [Nat.pow_mul]

theorem digitCount_le {width n : Nat} (hwidth : 0 < width) (hn : n < 16 ^ width) :
    digitCount n ≤ width := by
  have hlog : n.log2 < 4 * width := by
    by_cases hzero : n = 0
    · subst hzero
      rw [Nat.log2_zero]
      omega
    · rw [Nat.log2_lt hzero, Nat.pow_mul]
      exact hn
  rw [digitCount]
  omega

theorem upper_eq_lastDigits {width n : Nat} (hwidth : 0 < width) (hn : n < 16 ^ width) :
    upper width n = lastDigits width n := by
  rw [upper, digits, ← lastDigits_eq_map,
    padZeros_lastDigits (lt_pow_digitCount n) (digitCount_le hwidth hn)]

private theorem digitUpper_injective :
    ∀ m < 16, ∀ n < 16, digitUpper m = digitUpper n → m = n := by
  decide

private theorem blank_le_digitUpper : ∀ n < 16, 0x20 ≤ (digitUpper n).val := by
  decide

theorem byteUpper_injective {a b : UInt8} (h : byteUpper a = byteUpper b) : a = b := by
  have ha := a.toNat_lt
  have hb := b.toNat_lt
  simp only [byteUpper, List.cons.injEq, and_true] at h
  have hhigh := digitUpper_injective _ (by omega) _ (by omega) h.1
  have hlow := digitUpper_injective _ (by omega) _ (by omega) h.2
  apply UInt8.toNat_inj.1
  omega

theorem blank_le_of_mem_lastDigits {width n : Nat} {c : CodePoint} (h : c ∈ lastDigits width n) :
    0x20 ≤ c.val := by
  induction width with
  | zero => cases h
  | succ width ih =>
    rcases List.mem_cons.1 h with rfl | h
    · exact blank_le_digitUpper _ (Nat.mod_lt _ (by decide))
    · exact ih h

theorem blank_le_of_mem_byteUpper {b : UInt8} {c : CodePoint} (h : c ∈ byteUpper b) :
    0x20 ≤ c.val := by
  have hb := b.toNat_lt
  simp only [byteUpper, List.mem_cons, List.not_mem_nil, or_false] at h
  rcases h with rfl | rfl <;> exact blank_le_digitUpper _ (by omega)

end RecordStream.Hexadecimal
