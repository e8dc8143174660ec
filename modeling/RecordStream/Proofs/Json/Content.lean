import Mathlib.Data.List.TakeWhile
import RecordStream.Proofs.Framing.Objects
import RecordStream.Proofs.Text.Decimal
import RecordStream.Proofs.Value.Every
import RecordStream.Wire.Json.Line

/-!
What can come out of a line of JSON. An integer that was read has no more digits than may be
written, wherever in the value it stands.
-/

namespace RecordStream.Json

open Value (Every EveryEntry everyEntry_nil)

def Countable (v : Value) : Prop := ∀ n, v = .int n → Decimal.fits n

theorem every_of_kind {v : Value} (h : v.kind ∉ [Value.Kind.int, .list, .map]) :
    v.Every Countable := by
  simp only [List.mem_cons, List.not_mem_nil, or_false, not_or] at h
  apply Every.plain _ h.2.1 h.2.2
  rintro n rfl
  exact absurd rfl h.1

theorem every_text (t : Text) : Every Countable (.text t) :=
  every_of_kind (by simp [Value.kind])

/-! Numbers. -/

theorem isDigit_of_mem_integerDigits {t : Text} {c : CodePoint} (h : c ∈ (integerDigits t).1) :
    c.isDigit := by
  cases t with
  | nil => cases h
  | cons d rest =>
    unfold integerDigits at h
    dsimp only at h
    split at h
    · next hzero =>
      rw [List.mem_singleton.1 h]
      have hval : d.val = 0x30 := by simpa [CodePoint.is] using hzero
      exact Decimal.isDigit_iff.2 (by omega)
    · exact List.mem_takeWhile_imp h

theorem fits_of_read {digits : Text} {n : Nat} (hne : digits ≠ [])
    (hdigits : ∀ c ∈ digits, c.isDigit) (h : Decimal.read digits = .ok n) : Decimal.fits n := by
  unfold Decimal.read at h
  split at h
  · next hlength =>
    cases h
    have hnumeral : Decimal.isNumeral digits := by
      simpa [Decimal.isNumeral, hne] using hdigits
    exact (Decimal.spells_iff.2 ⟨hnumeral, rfl⟩).fits hlength
  · cases h

theorem every_signed {n : Nat} (h : Decimal.fits n) (negative : Bool) :
    Every Countable (.int (if negative then -(n : Int) else n)) := by
  have hfits : Decimal.fits (if negative then -(n : Int) else n) := by
    rw [Decimal.fits_iff] at h ⊢
    split
    · rwa [Int.natAbs_neg]
    · exact h
  apply Every.plain
  · rintro _ ⟨⟩
    exact hfits
  · simp [Value.kind]
  · simp [Value.kind]

theorem every_number {t rest : Text} {v : Value} (h : number t = .ok (v, rest)) :
    v.Every Countable := by
  unfold number at h
  split at h
  next negative unsigned _ =>
  split at h
  next whole left hwhole =>
  split at h
  · cases h
  next hne =>
  dsimp only at h
  split at h
  · split at h
    · next n hread =>
      cases h
      have hdigits : ∀ c ∈ whole, c.isDigit := by
        intro c hc
        apply isDigit_of_mem_integerDigits (t := unsigned)
        rwa [hwhole]
      exact every_signed (fits_of_read hne hdigits hread) negative
    · cases h
  · cases h
    exact every_of_kind (by simp [Value.kind])

theorem word_or_number_of_scalar {t rest : Text} {v : Value} (h : scalar t = .ok (v, rest)) :
    (∃ w ∈ words, w.2 = v) ∨ number t = .ok (v, rest) := by
  unfold scalar at h
  split at h
  · next found hfound =>
    cases h
    obtain ⟨⟨word, v'⟩, hmem, hword⟩ := List.exists_of_findSome?_eq_some hfound
    obtain ⟨left, -, heq⟩ := Option.map_eq_some_iff.1 hword
    cases heq
    exact .inl ⟨_, hmem, rfl⟩
  · exact .inr h

theorem every_scalar {t rest : Text} {v : Value} (h : scalar t = .ok (v, rest)) :
    v.Every Countable := by
  have hwords : ∀ w ∈ words, w.2.kind ∉ [Value.Kind.int, .list, .map] := by decide
  rcases word_or_number_of_scalar h with ⟨w, hw, rfl⟩ | h
  · exact every_of_kind (hwords w hw)
  · exact every_number h

/-! Values. -/

/-- With so much fuel only such values are read, if the parts that were read before are such. -/
structure Reads (fuel : Nat) : Prop where
  value : ∀ {t rest v}, value fuel t = .ok (v, rest) → v.Every Countable
  members : ∀ {done t rest v}, EveryEntry Countable done → members fuel done t = .ok (v, rest) →
    v.Every Countable
  items : ∀ {done t rest v}, (∀ item ∈ done, item.Every Countable) →
    items fuel done t = .ok (v, rest) → v.Every Countable

theorem reads_zero : Reads 0 where
  value h := by
    unfold Json.value at h
    cases h
  members _ h := by
    unfold Json.members at h
    cases h
  items _ h := by
    unfold Json.items at h
    cases h

section Step

variable {fuel : Nat} (ih : Reads fuel)

include ih

theorem Reads.value_succ {t rest : Text} {v : Value} (h : Json.value (fuel + 1) t = .ok (v, rest)) :
    v.Every Countable := by
  cases t with
  | nil =>
    unfold Json.value at h
    cases h
  | cons c left =>
    unfold Json.value at h
    split at h
    · split at h
      · cases h
        exact every_text _
      · cases h
    split at h
    · split at h
      · exact ih.members everyEntry_nil h
      · split at h
        · cases h
          exact Every.map nofun everyEntry_nil
        · exact ih.members everyEntry_nil h
    split at h
    · split at h
      · exact ih.items (by simp) h
      · split at h
        · cases h
          exact Every.list nofun (by simp)
        · exact ih.items (by simp) h
    · exact every_scalar h

theorem Reads.members_succ {done : List (Value × Value)} (hdone : EveryEntry Countable done)
    {t rest : Text} {v : Value} (h : Json.members (fuel + 1) done t = .ok (v, rest)) :
    v.Every Countable := by
  cases t with
  | nil =>
    unfold Json.members at h
    cases h
  | cons c left =>
    unfold Json.members at h
    split at h
    · split at h
      · cases h
      next name left _ =>
      split at h
      · cases h
      split at h
      · split at h
        · cases h
        next hvalue =>
        have hmore := hdone.insert (every_text name) (ih.value hvalue)
        dsimp only at h
        split at h
        · cases h
        split at h
        · cases h
          exact Every.map nofun hmore
        split at h
        · exact ih.members hmore h
        · cases h
      · cases h
    · cases h

theorem Reads.items_succ {done : List Value} (hdone : ∀ item ∈ done, item.Every Countable)
    {t rest : Text} {v : Value} (h : Json.items (fuel + 1) done t = .ok (v, rest)) :
    v.Every Countable := by
  unfold Json.items at h
  split at h
  · cases h
  next hvalue =>
  have hmore := List.forall_mem_cons.2 ⟨ih.value hvalue, hdone⟩
  split at h
  · cases h
  split at h
  · cases h
    refine Every.list nofun ?_
    intro item hitem
    exact hmore item (List.mem_reverse.1 hitem)
  split at h
  · exact ih.items hmore h
  · cases h

end Step

theorem reads (fuel : Nat) : Reads fuel := by
  induction fuel with
  | zero => exact reads_zero
  | succ fuel ih =>
    exact ⟨ih.value_succ, fun hdone => ih.members_succ hdone, fun hdone => ih.items_succ hdone⟩

theorem every_read {t : Text} {v : Value} (h : read t = .ok v) : v.Every Countable := by
  unfold read at h
  dsimp only at h
  split at h
  · cases h
  next hvalue =>
  split at h
  · cases h
    exact (reads _).value hvalue
  · cases h

theorem exists_read_of_whole {frame : Bytes} {v : Value} (h : framing.Whole frame v) :
    ∃ t, read t = .ok v := by
  refine h.meets (I := fun _ _ => True) (O := fun v _ => ∃ t, read t = .ok v) ?_ trivial
  intro line n b _
  change (step line b).Meets _ _ _
  unfold step finishLine readLine
  split
  · split
    · trivial
    split
    · next hline =>
      split at hline
      · cases hline
      split at hline
      · next hread =>
        cases hline
        exact ⟨_, hread⟩
      · cases hline
    · trivial
  · trivial

theorem every_whole {frame : Bytes} {v : Value} (h : framing.Whole frame v) : v.Every Countable := by
  obtain ⟨t, hread⟩ := exists_read_of_whole h
  exact every_read hread

end RecordStream.Json
