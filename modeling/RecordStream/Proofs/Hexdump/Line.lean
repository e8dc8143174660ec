import Mathlib.Data.List.Infix
import RecordStream.Hexdump
import RecordStream.Proofs.Text.Hexadecimal
import RecordStream.Proofs.Text.Joined

/-!
One line of a dump. The digits of a byte stand at a place that its index in the line gives, and how
long a line is tells how many bytes it shows. So no two runs of bytes have the same line.
-/

namespace RecordStream.Hexdump

/-! Groups. -/

def groupText (group : Bytes) : Text := Text.join " " (group.map Hexadecimal.byteUpper)

theorem digitsText_eq (chunk : Bytes) :
    digitsText chunk = Text.join "  " ((pieces groupSize chunk).map groupText) := rfl

theorem length_groupText (group : Bytes) : (groupText group).length = 3 * group.length - 1 := by
  induction group with
  | nil => rfl
  | cons b group ih =>
    by_cases hnil : group = []
    · subst hnil
      rfl
    · have hpos := List.length_pos_iff.2 hnil
      have hbyte : (Hexadecimal.byteUpper b).length = 2 := rfl
      have hblank : (Text.ofString " ").length = 1 := rfl
      rw [groupText, List.map_cons, Text.join_cons (by simpa using hnil), ← groupText,
        List.length_append, List.length_append, ih, hbyte, hblank, List.length_cons]
      omega

theorem prefix_drop_groupText {group : Bytes} {j : Nat} {b : UInt8} (h : group[j]? = some b) :
    Hexadecimal.byteUpper b <+: (groupText group).drop (3 * j) := by
  rw [Nat.mul_comm]
  have hitem : (group.map Hexadecimal.byteUpper)[j]? = some (Hexadecimal.byteUpper b) := by
    rw [List.getElem?_map, h]
    rfl
  have hsize : ∀ other ∈ (group.map Hexadecimal.byteUpper).take j, other.length = 2 := by
    intro other hother
    obtain ⟨b, -, rfl⟩ := List.mem_map.1 (List.mem_of_mem_take hother)
    rfl
  exact Text.prefix_drop_join " " hitem hsize

/-! The column of digits. -/

def digitsLength (count : Nat) : Nat := 3 * count - 1 + (count - 1) / 8

theorem digitsText_of_le {chunk : Bytes} (h : chunk.length ≤ groupSize) :
    digitsText chunk = groupText chunk := by
  by_cases hnil : chunk = []
  · subst hnil
    rfl
  · rw [digitsText_eq, pieces_of_ne_nil (by decide) hnil, List.take_of_length_le h,
      List.drop_eq_nil_of_le h, pieces_nil, List.map_singleton, Text.join,
      List.intercalate_singleton]

theorem digitsText_of_lt {chunk : Bytes} (h : groupSize < chunk.length) :
    digitsText chunk =
      groupText (chunk.take groupSize) ++ "  " ++ digitsText (chunk.drop groupSize) := by
  have hne : chunk ≠ [] := by
    rintro rfl
    cases h
  have hrest : chunk.drop groupSize ≠ [] := by
    simpa using h
  rw [digitsText_eq, pieces_of_ne_nil (by decide) hne, List.map_cons, Text.join_cons]
  · rfl
  · rw [pieces_of_ne_nil (by decide) hrest]
    exact List.cons_ne_nil _ _

theorem length_digitsText (chunk : Bytes) :
    (digitsText chunk).length = digitsLength chunk.length := by
  induction hn : chunk.length using Nat.strongRecOn generalizing chunk with
  | ind n ih =>
    subst hn
    by_cases h : chunk.length ≤ groupSize
    · rw [digitsText_of_le h, length_groupText, digitsLength]
      unfold groupSize at h
      omega
    · have hrest := ih (chunk.drop groupSize).length (by
        rw [List.length_drop]
        unfold groupSize at h ⊢
        omega) _ rfl
      have hblanks : (Text.ofString "  ").length = 2 := rfl
      rw [digitsText_of_lt (by omega), List.length_append, List.length_append, hrest,
        length_groupText, hblanks, List.length_take, List.length_drop, digitsLength, digitsLength]
      unfold groupSize at h ⊢
      omega

theorem getElem?_groups {chunk : Bytes} {i : Nat} (h : i * groupSize < chunk.length) :
    ((pieces groupSize chunk).map groupText)[i]? =
      some (groupText ((chunk.drop (i * groupSize)).take groupSize)) := by
  rw [List.getElem?_map, getElem?_pieces (by decide), if_pos h]
  rfl

theorem length_of_mem_take_groups {chunk : Bytes} {i : Nat} (h : i * groupSize < chunk.length)
    {shown : Text} (hshown : shown ∈ ((pieces groupSize chunk).map groupText).take i) :
    shown.length = 23 := by
  obtain ⟨k, hk⟩ := List.mem_iff_getElem?.1 hshown
  rw [List.getElem?_take] at hk
  split at hk
  · next hlt =>
    have hfull : (k + 1) * groupSize ≤ i * groupSize := Nat.mul_le_mul_right _ hlt
    rw [Nat.succ_mul] at hfull
    rw [getElem?_groups (by omega)] at hk
    cases hk
    rw [length_groupText, List.length_take, List.length_drop, Nat.min_eq_left (by omega)]
    rfl
  · cases hk

theorem prefix_drop_digitsText {chunk : Bytes} {j : Nat} {b : UInt8} (h : chunk[j]? = some b) :
    Hexadecimal.byteUpper b <+: (digitsText chunk).drop (3 * j + j / 8) := by
  have hj : j < chunk.length := (List.getElem?_eq_some_iff.1 h).1
  have hgroup : j / 8 * groupSize < chunk.length := Nat.lt_of_le_of_lt (Nat.div_mul_le_self j 8) hj
  have hcolumn := Text.prefix_drop_join "  " (getElem?_groups hgroup)
    fun _ hshown => length_of_mem_take_groups hgroup hshown
  have hbyte : Hexadecimal.byteUpper b <+:
      (groupText ((chunk.drop (j / 8 * groupSize)).take groupSize)).drop (3 * (j % 8)) := by
    refine prefix_drop_groupText ?_
    have hlt : j % 8 < groupSize := Nat.mod_lt _ (by decide)
    have hindex : j / 8 * groupSize + j % 8 = j := Nat.div_add_mod' j 8
    rw [List.getElem?_take, if_pos hlt, List.getElem?_drop, hindex, h]
  have hplace := hbyte.trans (hcolumn.drop (3 * (j % 8)))
  rw [List.drop_drop] at hplace
  rw [digitsText_eq, show 3 * j + j / 8 = j / 8 * (23 + 2) + 3 * (j % 8) by omega]
  exact hplace

theorem blank_le_of_mem_digitsText {chunk : Bytes} {c : CodePoint} (h : c ∈ digitsText chunk) :
    0x20 ≤ c.val := by
  have hblanks : ∀ c ∈ Text.ofString " " ++ Text.ofString "  ", 0x20 ≤ c.val := by decide
  rcases Text.mem_join h with h | ⟨group, hgroup, h⟩
  · exact hblanks c (List.mem_append_right _ h)
  · obtain ⟨bytes, -, rfl⟩ := List.mem_map.1 hgroup
    rcases Text.mem_join h with h | ⟨byte, hbyte, h⟩
    · exact hblanks c (List.mem_append_left _ h)
    · obtain ⟨b, -, rfl⟩ := List.mem_map.1 hbyte
      exact Hexadecimal.blank_le_of_mem_byteUpper h

/-! Whole lines. -/

def charactersColumn (width count : Nat) : Nat :=
  12 + max (digitsWidth width) (digitsLength count)

theorem charactersColumn_mono (width : Nat) {m n : Nat} (h : m ≤ n) :
    charactersColumn width m ≤ charactersColumn width n := by
  unfold charactersColumn digitsLength
  omega

theorem length_padRight (width : Nat) (t : Text) :
    (Text.padRight width t).length = max width t.length := by
  rw [Text.padRight, List.length_append, List.length_replicate]
  omega

theorem blank_le_character (b : UInt8) : 0x20 ≤ (character b).val := by
  unfold character
  split
  · next h =>
    rw [CodePoint.val_ofNat (by omega)]
    exact h.1
  · decide

theorem addressText_eq {address : Nat} (h : address < 2 ^ 32) :
    addressText address = Hexadecimal.lastDigits 8 address := by
  rw [addressText, if_neg (by omega), Int.natAbs_natCast,
    Hexadecimal.upper_eq_lastDigits (by decide) (by omega)]

section

variable {width address : Nat} {chunk : Bytes}

def front (width address : Nat) (chunk : Bytes) : Text :=
  Hexadecimal.lastDigits 8 address ++ "  " ++ Text.padRight (digitsWidth width) (digitsText chunk)
    ++ "  "

theorem line_eq (h : address < 2 ^ 32) :
    line width address chunk = front width address chunk ++ chunk.map character := by
  rw [line, addressText_eq h, front]

variable (width address chunk) in
theorem length_front : (front width address chunk).length = charactersColumn width chunk.length := by
  have hblanks : (Text.ofString "  ").length = 2 := rfl
  simp only [front, List.length_append, Hexadecimal.length_lastDigits, length_padRight,
    length_digitsText, hblanks, charactersColumn]
  omega

variable (width chunk) in
theorem length_line (h : address < 2 ^ 32) :
    (line width address chunk).length = charactersColumn width chunk.length + chunk.length := by
  rw [line_eq h, List.length_append, length_front, List.length_map]

theorem drop_line (h : address < 2 ^ 32) :
    (line width address chunk).drop (charactersColumn width chunk.length) =
      chunk.map character := by
  rw [line_eq h, ← length_front width address chunk, List.drop_left]

variable (width) in
theorem prefix_drop_line (h : address < 2 ^ 32) {j : Nat} {b : UInt8} (hb : chunk[j]? = some b) :
    Hexadecimal.byteUpper b <+: (line width address chunk).drop (10 + 3 * j + j / 8) := by
  have hfront : (Hexadecimal.lastDigits 8 address ++ "  ").length = 10 := by
    rw [List.length_append, Hexadecimal.length_lastDigits]
    rfl
  have hdigits := prefix_drop_digitsText hb
  have hpadded : digitsText chunk <+: Text.padRight (digitsWidth width) (digitsText chunk) ++
      ("  " ++ chunk.map character) :=
    List.prefix_append_of_prefix (List.prefix_append _ _)
  rw [line, addressText_eq h, List.append_assoc, List.append_assoc, Nat.add_assoc,
    ← List.drop_drop, ← hfront, List.drop_left]
  exact hdigits.trans (hpadded.drop _)

theorem blank_le_of_mem_line (h : address < 2 ^ 32) {c : CodePoint}
    (hc : c ∈ line width address chunk) : 0x20 ≤ c.val := by
  have hblanks : ∀ c ∈ Text.ofString "  ", 0x20 ≤ c.val := by decide
  rw [line_eq h, front, Text.padRight] at hc
  simp only [List.mem_append, List.mem_map] at hc
  rcases hc with (((hc | hc) | hc | hc) | hc) | ⟨b, -, rfl⟩
  · exact Hexadecimal.blank_le_of_mem_lastDigits hc
  · exact hblanks c hc
  · exact blank_le_of_mem_digitsText hc
  · rw [List.eq_of_mem_replicate hc]
    decide
  · exact hblanks c hc
  · exact blank_le_character b

theorem line_injective (h : address < 2 ^ 32) {other : Bytes}
    (heq : line width address chunk = line width address other) : chunk = other := by
  have hlength : chunk.length = other.length := by
    have hlines := congrArg List.length heq
    rw [length_line width chunk h, length_line width other h] at hlines
    rcases Nat.lt_trichotomy chunk.length other.length with hlt | hlength | hlt
    · have hmono := charactersColumn_mono width hlt.le
      omega
    · exact hlength
    · have hmono := charactersColumn_mono width hlt.le
      omega
  apply List.ext_getElem hlength
  intro j hj hother
  have hchunk := prefix_drop_line width h (List.getElem?_eq_getElem hj)
  have hother := prefix_drop_line width h (List.getElem?_eq_getElem hother)
  rw [← heq] at hother
  exact Hexadecimal.byteUpper_injective
    ((List.prefix_of_prefix_length_le hchunk hother (Nat.le_refl 2)).eq_of_length rfl)

end

end RecordStream.Hexdump
