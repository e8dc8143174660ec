import RecordStream.Proofs.Hexdump.Dump

/-!
Where the characters of a line begin. The column of digits counts one blank too few if the last
group of a full line is neither full nor the first one: such a line reaches beyond the column, and a
shorter one behind it does not.
-/

namespace RecordStream.Hexdump

def Aligned (data : Bytes) (width : Nat) (t : Text) : Prop :=
  ∃ column, ∀ i line, t.lines[i]? = some line →
    line.drop column = (chunkAt data width i).map character

/-- A full line ends in a group that is neither full nor the first one. -/
def Uneven (width : Nat) : Prop := 8 < width ∧ ¬8 ∣ width

instance (width : Nat) : Decidable (Uneven width) := inferInstanceAs (Decidable (_ ∧ _))

/-! The column of each line. -/

theorem charactersColumn_of_lt {width count : Nat} (h : count < width) :
    charactersColumn width count = 12 + digitsWidth width := by
  unfold charactersColumn digitsWidth digitsLength groupSize
  omega

theorem charactersColumn_full {width : Nat} (hwidth : 1 ≤ width) :
    charactersColumn width width = 12 + digitsWidth width + if Uneven width then 1 else 0 := by
  unfold charactersColumn digitsWidth digitsLength groupSize
  by_cases h : Uneven width
  · rw [if_pos h]
    unfold Uneven at h
    omega
  · rw [if_neg h]
    unfold Uneven at h
    omega

theorem charactersColumn_min {width : Nat} (hwidth : 1 ≤ width) (count : Nat) :
    charactersColumn width (min width count) =
      12 + digitsWidth width + if width ≤ count ∧ Uneven width then 1 else 0 := by
  rcases Nat.lt_or_ge count width with hlt | hge
  · rw [Nat.min_eq_right hlt.le, charactersColumn_of_lt hlt, if_neg fun h => by omega, Nat.add_zero]
  · rw [Nat.min_eq_left hge, charactersColumn_full hwidth]
    simp only [hge, true_and]

theorem length_chunkAt (data : Bytes) (width i : Nat) :
    (chunkAt data width i).length = min width (data.length - i * width) := by
  rw [chunkAt, List.length_take, List.length_drop]

theorem drop_line_eq_iff {width address column : Nat} {chunk : Bytes} (h : address < 2 ^ 32)
    (hne : chunk ≠ []) :
    (line width address chunk).drop column = chunk.map character ↔
      column = charactersColumn width chunk.length := by
  constructor
  · intro hdrop
    have hpos := List.length_pos_iff.2 hne
    have hlength := congrArg List.length hdrop
    rw [List.length_drop, length_line _ _ h, List.length_map] at hlength
    omega
  · rintro rfl
    exact drop_line h

section

variable {data : Bytes} {address width : Nat} (hwidth : 1 ≤ width)
  (haddress : address + data.length ≤ 2 ^ 32)

include hwidth haddress

theorem drop_eq_iff {i column : Nat} {l : Text} (h : (dump data address width).lines[i]? = some l) :
    l.drop column = (chunkAt data width i).map character ↔
      column = 12 + digitsWidth width +
        if (i + 1) * width ≤ data.length ∧ Uneven width then 1 else 0 := by
  obtain ⟨hi, rfl⟩ := getElem?_lines_dump hwidth haddress h
  have hfull : width ≤ data.length - i * width ↔ (i + 1) * width ≤ data.length := by
    rw [Nat.succ_mul]
    omega
  have hne : chunkAt data width i ≠ [] := by
    rw [← List.length_pos_iff, length_chunkAt]
    omega
  rw [drop_line_eq_iff (by omega) hne, length_chunkAt, charactersColumn_min hwidth]
  simp only [hfull]

theorem getElem?_lines_of_lt {i : Nat} (h : i * width < data.length) :
    ∃ l, (dump data address width).lines[i]? = some l :=
  ⟨_, by rw [lines_dump hwidth haddress, getElem?_lines (by omega) data address h]⟩

theorem aligned_dump_iff :
    Aligned data width (dump data address width) ↔
      ¬Uneven width ∨ data.length ≤ width ∨ width ∣ data.length := by
  constructor
  · rintro ⟨column, hcolumn⟩
    by_contra hno
    obtain ⟨huneven, hlong, hrest⟩ : Uneven width ∧ width < data.length ∧ ¬width ∣ data.length := by
      simpa only [not_or, not_not, Nat.not_le] using hno
    -- The first line is full and the last one is not.
    have hpos : 0 < data.length % width := Nat.pos_of_ne_zero (mt Nat.dvd_of_mod_eq_zero hrest)
    have hmod := Nat.mod_lt data.length hwidth
    have hdiv := Nat.div_add_mod' data.length width
    obtain ⟨first, hfirst⟩ := getElem?_lines_of_lt hwidth haddress (i := 0) (by omega)
    obtain ⟨last, hlast⟩ :=
      getElem?_lines_of_lt hwidth haddress (i := data.length / width) (by omega)
    have hfull := (drop_eq_iff hwidth haddress hfirst).1 (hcolumn 0 first hfirst)
    have hshort := (drop_eq_iff hwidth haddress hlast).1 (hcolumn _ last hlast)
    rw [if_pos ⟨by omega, huneven⟩] at hfull
    rw [if_neg fun h => by rw [Nat.succ_mul] at h; omega] at hshort
    omega
  · intro h
    refine ⟨12 + digitsWidth width + if width ≤ data.length ∧ Uneven width then 1 else 0,
      fun i l hl => ?_⟩
    rw [drop_eq_iff hwidth haddress hl]
    have hi := (getElem?_lines_dump hwidth haddress hl).1
    rcases h with heven | hone | hall
    · simp only [heven, and_false]
    · have hzero : i = 0 := by
        by_contra hne
        have hle := Nat.le_mul_of_pos_left width (Nat.pos_of_ne_zero hne)
        omega
      subst hzero
      rw [Nat.zero_add, Nat.one_mul]
    · obtain ⟨count, hcount⟩ := hall
      rw [hcount, Nat.mul_comm i] at hi
      have hcovered : (i + 1) * width ≤ data.length := by
        rw [hcount, Nat.mul_comm]
        exact Nat.mul_le_mul_left width (Nat.lt_of_mul_lt_mul_left hi)
      have hlong : width ≤ data.length := by
        rw [Nat.succ_mul] at hcovered
        omega
      simp only [hcovered, hlong]

end

/-- The characters of all lines begin at the same place, unless full lines are uneven and a shorter
one stands behind them. In any case those of each line begin where the column of digits should end,
or one place later in a full uneven line. -/
theorem characters_aligned_iff (data : Bytes) (address width : Nat) (hwidth : 1 ≤ width)
    (haddress : address + data.length ≤ 2 ^ 32) {limit : Nat} {t : Text}
    (ht : dump? limit data address width = .ok t) :
    (Aligned data width t ↔ ¬Uneven width ∨ data.length ≤ width ∨ width ∣ data.length) ∧
      ∀ i line, t.lines[i]? = some line →
        line.drop (12 + digitsWidth width +
            if (i + 1) * width ≤ data.length ∧ Uneven width then 1 else 0) =
          (chunkAt data width i).map character := by
  obtain ⟨-, rfl⟩ := (dump?_eq_ok_iff hwidth).1 ht
  exact ⟨aligned_dump_iff hwidth haddress, fun i line h => (drop_eq_iff hwidth haddress h).2 rfl⟩

theorem characters_aligned_sixteen :
    let data : Bytes := (List.range 20).map fun n => UInt8.ofNat (0x41 + n)
    ∃ t, dump? 200 data (0 : Nat) (16 : Nat) = .ok t ∧ Aligned data 16 t := by
  intro data
  have ht : dump? 200 data (0 : Nat) (16 : Nat) = .ok (dump data (0 : Nat) 16) :=
    (dump?_eq_ok_iff (by decide)).2 ⟨.inr (by decide +kernel), rfl⟩
  have haligned := characters_aligned_iff data 0 16 (by decide) (by decide) ht
  exact ⟨_, ht, haligned.1.2 (.inl (by decide))⟩

/-- Nine bytes and one more: the second line has its character one place before the first one. -/
theorem short_line_begins_earlier :
    ¬∀ (limit : Nat) (data : Bytes) (address width : Nat) (t : Text), 1 ≤ width →
      address + data.length ≤ 2 ^ 32 → dump? limit data address width = .ok t →
      Aligned data width t := by
  intro h
  let data : Bytes := (List.range 10).map UInt8.ofNat
  have ht : dump? 200 data (0 : Nat) (9 : Nat) = .ok (dump data (0 : Nat) 9) :=
    (dump?_eq_ok_iff (by decide)).2 ⟨.inr (by decide +kernel), rfl⟩
  have haligned := h 200 data 0 9 _ (by decide) (by decide) ht
  have hcases : ¬Uneven 9 ∨ data.length ≤ 9 ∨ 9 ∣ data.length :=
    (aligned_dump_iff (by decide) (by decide)).1 haligned
  revert hcases
  decide

end RecordStream.Hexdump
