import Mathlib.Tactic.Common
import RecordStream.Text.Digits

/-!
Numerals are recognised in two ways: by digits of ASCII alone, and by digits of any kind in a text
that is ASCII. Only one script has its digits in ASCII, so both find the same texts.
-/

namespace RecordStream

namespace CodePoint

variable {c : CodePoint}

theorem isDecimalDigit_of_isAscii (h : c.isAscii) : c.isDecimalDigit = c.isDigit := by
  have hzeros : ∀ z ∈ decimalZeros, z = 0x30 ∨ 0x80 ≤ z := by decide
  have hascii : c.val < 0x80 := by simpa [isAscii] using h
  rw [Bool.eq_iff_iff]
  simp only [isDecimalDigit, decimalDigit?, isDigit, Option.isSome_map, List.find?_isSome,
    Bool.and_eq_true, decide_eq_true_eq]
  constructor
  · rintro ⟨z, hz, hlow, hhigh⟩
    obtain rfl | hfar := hzeros z hz <;> omega
  · rintro ⟨hlow, hhigh⟩
    exact ⟨0x30, by decide, hlow, by omega⟩

theorem isShapedDigit_of_isAscii (h : c.isAscii) : c.isShapedDigit = false := by
  have hruns : ∀ run ∈ shapedDigitRuns, 0x80 ≤ run.1 := by decide
  have hascii : c.val < 0x80 := by simpa [isAscii] using h
  rw [isShapedDigit, List.any_eq_false]
  intro run hrun
  have hfar := hruns run hrun
  simp only [Bool.and_eq_true, decide_eq_true_eq]
  omega

theorem isAscii_of_isDigit (h : c.isDigit) : c.isAscii := by
  simp only [isDigit, isAscii, Bool.and_eq_true, decide_eq_true_eq] at h ⊢
  omega

end CodePoint

theorem Text.isAscii_and_isDigits (t : Text) : (t.isAscii && t.isDigits) = Decimal.isNumeral t := by
  rw [Bool.eq_iff_iff]
  simp only [isAscii, isDigits, Decimal.isNumeral, Bool.and_eq_true, List.all_eq_true,
    Bool.or_eq_true]
  constructor
  · rintro ⟨hascii, hsome, hdigits⟩
    refine ⟨hsome, fun c hc => ?_⟩
    have hc_ascii := hascii c hc
    rcases hdigits c hc with hdecimal | hshaped
    · rwa [← CodePoint.isDecimalDigit_of_isAscii hc_ascii]
    · rw [CodePoint.isShapedDigit_of_isAscii hc_ascii] at hshaped
      cases hshaped
  · rintro ⟨hsome, hdigits⟩
    have hascii (c : CodePoint) (hc : c ∈ t) : c.isAscii :=
      CodePoint.isAscii_of_isDigit (hdigits c hc)
    refine ⟨hascii, hsome, fun c hc => .inl ?_⟩
    rw [CodePoint.isDecimalDigit_of_isAscii (hascii c hc)]
    exact hdigits c hc

end RecordStream
