import RecordStream.Proofs.Record.Shape
import RecordStream.Proofs.Text.Decimal
import RecordStream.Proofs.Text.Utf8

/-! The records of a run: which indices have one, and what it is made of. -/

namespace RecordStream.Record

theorem forIndex_eq_ok_iff {index : Nat} {source : Given Text} {r : Record} :
    forIndex index source = .ok r ↔
      Decimal.fits index ∧ r = { source, message := messagePrefix ++ Decimal.ofInt index } := by
  have hindex : ¬(index : Int) < 0 := by omega
  unfold forIndex Decimal.write
  cases Decimal.fits index with
  | true => simp only [if_true, if_neg hindex, Except.ok.injEq, true_and, eq_comm]
  | false => simp

theorem forIndex_of_fits {index : Nat} (h : Decimal.fits index) (source : Given Text) :
    forIndex index source = .ok { source, message := messagePrefix ++ Decimal.ofInt index } :=
  forIndex_eq_ok_iff.2 ⟨h, rfl⟩

theorem mem_texts_forIndex {index : Nat} {source : Given Text} {r : Record}
    (h : forIndex index source = .ok r) {t : Text} :
    t ∈ r.texts ↔ source = .value t ∨ t = "item" ∨ t = messagePrefix ++ Decimal.ofInt index := by
  obtain ⟨-, rfl⟩ := forIndex_eq_ok_iff.1 h
  exact mem_texts_iff

theorem hasSurrogate_message (index : Nat) :
    (messagePrefix ++ Decimal.ofInt index).hasSurrogate = false := by
  simp [messagePrefix, Decimal.hasSurrogate_ofInt]

theorem length_message_lt {index : Nat} (hfits : Decimal.fits index) :
    (messagePrefix ++ Decimal.ofInt index).length < 2 ^ 30 := by
  have hprefix : messagePrefix.length = 13 := rfl
  have hdigits := Decimal.length_ofInt_natCast_le hfits
  rw [List.length_append]
  omega

end RecordStream.Record
