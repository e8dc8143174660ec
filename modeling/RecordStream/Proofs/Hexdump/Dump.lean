import RecordStream.Proofs.Hexdump.Line

/-!
Dumps and what they say about their bytes. Every line shows its address and its bytes, each byte at
a place that does not depend on the others, so a dump gives its bytes back.
-/

namespace RecordStream.Hexdump

def chunkAt (data : Bytes) (width i : Nat) : Bytes := (data.drop (i * width)).take width

/-- A line that shows bytes: the address of the first one in front, the digits of each at a place of
its own, and at the end each of them as a character. -/
structure Shows (address : Nat) (chunk : Bytes) (line : Text) : Prop where
  address : Hexadecimal.lastDigits 8 address ++ Text.ofString "  " <+: line
  digits : ∀ j b, chunk[j]? = some b →
    Hexadecimal.byteUpper b <+: line.drop (10 + 3 * j + j / 8)
  characters : Text.ofString "  " ++ chunk.map character <:+ line

/-- A text whose lines show the bytes, `width` of them in each but the last. -/
structure Layout (data : Bytes) (address width : Nat) (t : Text) : Prop where
  joined : t = Text.join "\n" t.lines
  count : t.lines.length = (data.length + width - 1) / width
  shows : ∀ i line, t.lines[i]? = some line →
    Shows (address + i * width) (chunkAt data width i) line

theorem line_shows {width address : Nat} {chunk : Bytes} (h : address < 2 ^ 32) :
    Shows address chunk (line width address chunk) where
  address := by
    rw [line, addressText_eq h, List.append_assoc, List.append_assoc]
    exact List.prefix_append _ _
  digits j b hb := prefix_drop_line width h hb
  characters := by
    rw [line, List.append_assoc]
    exact List.suffix_append _ _

/-! The lines of a dump. -/

theorem length_lines (width : Nat) (address : Int) (chunks : List Bytes) :
    (lines width address chunks).length = chunks.length := by
  induction chunks generalizing address with
  | nil => rfl
  | cons chunk chunks ih => rw [lines, List.length_cons, ih, List.length_cons]

section

variable {width : Nat} (hwidth : width ≠ 0)

include hwidth

theorem getElem?_lines (data : Bytes) (address : Int) {i : Nat} (hi : i * width < data.length) :
    (lines width address (pieces width data))[i]? =
      some (line width (address + (i * width : Nat)) (chunkAt data width i)) := by
  induction i generalizing data address with
  | zero =>
    have hne : data ≠ [] := by
      rintro rfl
      cases hi
    rw [pieces_of_ne_nil hwidth hne, lines, List.getElem?_cons_zero]
    simp [chunkAt]
  | succ i ih =>
    rw [Nat.succ_mul] at hi
    have hne : data ≠ [] := by
      rintro rfl
      cases hi
    -- A line with another one behind it is full, which moves the address by the width.
    have hfull : (data.take width).length = width := by
      rw [List.length_take]
      omega
    rw [pieces_of_ne_nil hwidth hne, lines, List.getElem?_cons_succ, hfull,
      ih (data.drop width) (address + width) (by rw [List.length_drop]; omega)]
    rw [chunkAt, chunkAt, List.drop_drop, Nat.succ_mul, Nat.add_comm width, Nat.add_comm,
      Int.natCast_add, Int.add_assoc]

theorem eq_line_of_getElem? {data : Bytes} {address : Int} {i : Nat} {l : Text}
    (h : (lines width address (pieces width data))[i]? = some l) :
    i * width < data.length ∧
      l = line width (address + (i * width : Nat)) (chunkAt data width i) := by
  have hlt := (List.getElem?_eq_some_iff.1 h).1
  rw [length_lines] at hlt
  have hi : i * width < data.length := by
    have hpiece := getElem?_pieces hwidth data i
    rw [List.getElem?_eq_getElem hlt] at hpiece
    split at hpiece
    · assumption
    · cases hpiece
  rw [getElem?_lines hwidth data address hi] at h
  exact ⟨hi, (Option.some.inj h).symm⟩

end

section

variable {data : Bytes} {address width : Nat} (hwidth : 1 ≤ width)
  (haddress : address + data.length ≤ 2 ^ 32)

include hwidth haddress

theorem lines_dump :
    (dump data address width).lines = lines width address (pieces width data) := by
  refine Text.lines_join fun l hl => ?_
  obtain ⟨i, hi⟩ := List.mem_iff_getElem?.1 hl
  obtain ⟨hlt, rfl⟩ := eq_line_of_getElem? (by omega) hi
  have h : address + i * width < 2 ^ 32 := by omega
  rw [← Int.natCast_add]
  constructor
  · have hlength := length_line width (chunkAt data width i) h
    intro hnil
    rw [hnil, charactersColumn, List.length_nil] at hlength
    omega
  · intro hmem
    have hle := blank_le_of_mem_line h hmem
    revert hle
    decide

theorem getElem?_lines_dump {i : Nat} {l : Text}
    (h : (dump data address width).lines[i]? = some l) :
    i * width < data.length ∧ l = line width (address + i * width : Nat) (chunkAt data width i) := by
  rw [lines_dump hwidth haddress] at h
  rw [Int.natCast_add]
  exact eq_line_of_getElem? (by omega) h

theorem layout_dump : Layout data address width (dump data address width) where
  joined := (Text.join_lines _).symm
  count := by rw [lines_dump hwidth haddress, length_lines, length_pieces (by omega)]
  shows i l h := by
    obtain ⟨hlt, rfl⟩ := getElem?_lines_dump hwidth haddress h
    exact line_shows (by omega)

end

theorem lines_injective {width : Nat} {address : Nat} {chunks others : List Bytes}
    (h : address + chunks.flatten.length ≤ 2 ^ 32) (hne : ∀ chunk ∈ chunks, chunk ≠ [])
    (heq : lines width address chunks = lines width address others) : chunks = others := by
  induction chunks generalizing address others with
  | nil =>
    cases others with
    | nil => rfl
    | cons other others => cases heq
  | cons chunk chunks ih =>
    cases others with
    | nil => cases heq
    | cons other others =>
      obtain ⟨hchunk, hchunks⟩ := List.forall_mem_cons.1 hne
      have hpos := List.length_pos_iff.2 hchunk
      rw [List.flatten_cons, List.length_append] at h
      rw [lines, lines] at heq
      obtain ⟨hline, hlines⟩ := List.cons.inj heq
      obtain rfl := line_injective (by omega) hline
      rw [← Int.natCast_add] at hlines
      rw [ih (by omega) hchunks hlines]

theorem dump_injective {data other : Bytes} {address width : Nat} (hwidth : 1 ≤ width)
    (hdata : address + data.length ≤ 2 ^ 32) (hother : address + other.length ≤ 2 ^ 32)
    (h : dump data address width = dump other address width) : data = other := by
  have hwidth' : width ≠ 0 := by omega
  have hlines := congrArg Text.lines h
  rw [lines_dump hwidth hdata, lines_dump hwidth hother] at hlines
  have hpieces : pieces width data = pieces width other := by
    refine lines_injective ?_ ?_ hlines
    · rw [flatten_pieces hwidth']
      exact hdata
    · intro chunk hchunk
      obtain ⟨i, hi⟩ := List.mem_iff_getElem?.1 hchunk
      rw [getElem?_pieces hwidth'] at hi
      split at hi
      · next hlt =>
        cases hi
        rw [← List.length_pos_iff, List.length_take, List.length_drop]
        omega
      · cases hi
  rw [← flatten_pieces hwidth' data, hpieces, flatten_pieces hwidth']

/-! The limits of a dump. -/

@[simp] theorem dump_nil (address : Int) (width : Nat) : dump [] address width = [] := by
  rw [dump, pieces_nil]
  rfl

theorem digitsWidth_le_length_dump {data : Bytes} (address : Int) {width : Nat} (hwidth : width ≠ 0)
    (hdata : data ≠ []) : digitsWidth width ≤ (dump data address width).length := by
  have hfirst : (lines width address (pieces width data))[0]? =
      some (line width address (data.take width)) := by
    rw [pieces_of_ne_nil hwidth hdata]
    rfl
  have hbefore : ∀ other ∈ (lines width address (pieces width data)).take 0, other.length = 0 :=
    List.forall_mem_nil _
  have hline := (Text.prefix_drop_join "\n" hfirst hbefore).length_le
  rw [Nat.zero_mul, List.drop_zero] at hline
  refine Nat.le_trans ?_ hline
  simp only [line, List.length_append, length_padRight]
  omega

section

variable {limit : Nat} {data : Bytes} {address : Int} {width : Nat} (hwidth : 1 ≤ width)

include hwidth

theorem dump?_nil : dump? limit [] address width = .ok [] := by
  rw [dump?, if_neg (by omega), if_pos (.inr rfl)]

theorem dump?_of_ne_nil (hdata : data ≠ []) :
    dump? limit data address width =
      if 2 ^ 63 ≤ digitsWidth width then .error .columnRange
      else if limit < (dump data address width).length then .error .memory
      else .ok (dump data address width) := by
  have hlines : ¬((width : Int) < 0 ∨ data.isEmpty) := by
    simp only [List.isEmpty_iff, hdata, or_false]
    omega
  have hcolumn := digitsWidth_le_length_dump address (Nat.ne_of_gt hwidth) hdata
  rw [dump?, if_neg (by omega), if_neg hlines, Int.toNat_natCast]
  by_cases hsize : limit < digitsWidth width
  · rw [if_pos hsize, if_pos (Nat.lt_of_lt_of_le hsize hcolumn)]
  · rw [if_neg hsize]

theorem dump?_eq_ok_iff {t : Text} :
    dump? limit data address width = .ok t ↔
      (data = [] ∨ digitsWidth width < 2 ^ 63 ∧ (dump data address width).length ≤ limit) ∧
        dump data address width = t := by
  by_cases hnil : data = []
  · subst hnil
    simp [dump?_nil hwidth]
  · rw [dump?_of_ne_nil hwidth hnil]
    simp only [hnil, false_or]
    split_ifs with hrange hsize
    · exact iff_of_false (by simp) fun h => by omega
    · exact iff_of_false (by simp) fun h => by omega
    · rw [Except.ok.injEq, and_iff_right ⟨by omega, by omega⟩]

end

/-- A dump of bytes is returned unless the column of digits or the dump itself is too long, and each
of the two has a fault of its own. The lines of a dump show the bytes, and no other bytes have the
same dump. -/
theorem dump?_shows (limit : Nat) (data : Bytes) (address width : Nat) (hwidth : 1 ≤ width)
    (haddress : address + data.length ≤ 2 ^ 32) :
    (data ≠ [] → 2 ^ 63 ≤ digitsWidth width →
      dump? limit data address width = .error .columnRange) ∧
    (data ≠ [] → digitsWidth width < 2 ^ 63 → limit < (dump data address width).length →
      dump? limit data address width = .error .memory) ∧
    (data = [] ∨ digitsWidth width < 2 ^ 63 ∧ (dump data address width).length ≤ limit →
      ∃ t, dump? limit data address width = .ok t ∧ Layout data address width t ∧
        (data = [] → t = []) ∧
        ∀ other, address + other.length ≤ 2 ^ 32 → dump? limit other address width = .ok t →
          other = data) := by
  refine ⟨fun hdata hrange => ?_, fun hdata hrange hsize => ?_, fun h => ?_⟩
  · rw [dump?_of_ne_nil hwidth hdata, if_pos hrange]
  · rw [dump?_of_ne_nil hwidth hdata, if_neg (by omega), if_pos hsize]
  · refine ⟨_, (dump?_eq_ok_iff hwidth).2 ⟨h, rfl⟩, layout_dump hwidth haddress, ?_, ?_⟩
    · rintro rfl
      exact dump_nil _ _
    · intro other hother heq
      exact dump_injective hwidth hother haddress ((dump?_eq_ok_iff hwidth).1 heq).2

theorem dump?_shows_short_line :
    let t : Text := "00000100  41 0A  A.\n00000102  42     B"
    dump? 38 [0x41, 0x0A, 0x42] (0x100 : Nat) (2 : Nat) = .ok t ∧
      Layout [0x41, 0x0A, 0x42] 0x100 2 t := by
  intro t
  have ht : dump? 38 [0x41, 0x0A, 0x42] (0x100 : Nat) (2 : Nat) = .ok t := by decide +kernel
  obtain ⟨t', ht', hlayout, -⟩ := (dump?_shows 38 [0x41, 0x0A, 0x42] 0x100 2 (by decide)
    (by decide)).2.2 (.inr (by decide +kernel))
  cases ht.symm.trans ht'
  exact ⟨ht, hlayout⟩

/-- The digits of a line that is wide enough have no text to stand in, however long texts can be. -/
theorem no_dump_of_vast_width :
    ¬∀ (data : Bytes) (address width : Nat), 1 ≤ width → address + data.length ≤ 2 ^ 32 →
      ∃ limit t, dump? limit data address width = .ok t ∧ Layout data address width t := by
  intro h
  obtain ⟨limit, t, ht, -⟩ := h [0x41] 0 (2 ^ 62) (by decide) (by decide)
  have hfault : dump? limit [0x41] (0 : Nat) (2 ^ 62 : Nat) = .error .columnRange := rfl
  rw [hfault] at ht
  cases ht

end RecordStream.Hexdump
