import RecordStream.Proofs.Framing.Objects
import RecordStream.Proofs.MessagePack.Moves
import RecordStream.Proofs.MessagePack.Size
import RecordStream.Proofs.Value.Every

/-!
What can come out of MessagePack. Every integer that was read is in the range of the format, every
text is free of surrogates, and no value was read of fewer bytes than the least that spell it. All
three follow from one invariant of the reader: what the containers hold so far, and the bytes of the
token at hand, are paid for by the bytes read.
-/

namespace RecordStream.MessagePack

open Value (Every EveryEntry everyEntry_nil)

structure Packable (v : Value) : Prop where
  int : ∀ n, v = .int n → -2 ^ 63 ≤ n ∧ n ≤ 2 ^ 64 - 1
  text : ∀ t, v = .text t → t.hasSurrogate = false

structure Found (v : Value) (n : Nat) : Prop where
  every : v.Every Packable
  size : leastSize v ≤ n

theorem Found.mono {v : Value} {m n : Nat} (h : Found v m) (hmn : m ≤ n) : Found v n :=
  ⟨h.every, h.size.trans hmn⟩

theorem found_of_kind {v : Value} (h : v.kind ∉ [Value.Kind.int, .text, .list, .map]) :
    Found v 1 := by
  simp only [List.mem_cons, List.not_mem_nil, or_false, not_or] at h
  have hpackable : Packable v := by
    constructor
    · rintro n rfl
      exact absurd rfl h.1
    · rintro t rfl
      exact absurd rfl h.2.1
  refine ⟨Every.plain hpackable h.2.2.1 h.2.2.2, ?_⟩
  cases v with
  | int n => exact absurd rfl h.1
  | text t => exact absurd rfl h.2.1
  | map entries => exact absurd rfl h.2.2.2
  | _ => exact Nat.le_refl 1

theorem found_int {n : Int} (hlow : -2 ^ 63 ≤ n) (hhigh : n ≤ 2 ^ 64 - 1) :
    Found (.int n) (leastSize (.int n)) := by
  have hrange (m : Int) (hm : Value.int n = .int m) : -2 ^ 63 ≤ m ∧ m ≤ 2 ^ 64 - 1 := by
    cases hm
    exact ⟨hlow, hhigh⟩
  refine ⟨Every.plain ⟨hrange, nofun⟩ ?_ ?_, Nat.le_refl _⟩ <;> simp [Value.kind]

theorem found_text {t : Text} (h : t.hasSurrogate = false) :
    Found (.text t) (textBytes t).length := by
  have hplain (s : Text) (hs : Value.text t = .text s) : s.hasSurrogate = false := by
    cases hs
    exact h
  refine ⟨Every.plain ⟨nofun, hplain⟩ ?_ ?_, Nat.le_refl _⟩ <;> simp [Value.kind]

theorem found_list {items : List Value} (h : ∀ v ∈ items, v.Every Packable) :
    Found (.list items) 1 :=
  ⟨Every.list ⟨nofun, nofun⟩ h, Nat.le_refl 1⟩

theorem found_map {entries : List (Value × Value)} (h : EveryEntry Packable entries) :
    Found (.map entries) (leastSizeEntries entries + 1) :=
  ⟨Every.map ⟨nofun, nofun⟩ h, Nat.le_refl _⟩

theorem leastSizeEntries_insert (entries : List (Value × Value)) (key v : Value) :
    leastSizeEntries (Value.insert entries key v) ≤
      leastSizeEntries entries + leastSize key + leastSize v := by
  induction entries with
  | nil => simp only [Value.insert, leastSizeEntries]; omega
  | cons e rest ih =>
    obtain ⟨k, v'⟩ := e
    rw [Value.insert]
    split
    · simp only [leastSizeEntries]
      omega
    · simp only [leastSizeEntries]
      omega

/-! A number takes no more bytes than the field it was read from. -/

section Widths

variable {width n : Nat}

theorem length_natural_le (hwidth : width ∈ [1, 2, 4, 8]) (hn : n < 256 ^ width) :
    (natural n).length ≤ width + 1 := by
  simp only [List.mem_cons, List.not_mem_nil, or_false] at hwidth
  unfold natural
  rcases hwidth with rfl | rfl | rfl | rfl <;> split_ifs <;> simp

theorem length_negative_le (hwidth : width ∈ [1, 2, 4, 8]) (hn : 2 * n ≤ 256 ^ width) :
    (negative n).length ≤ width + 1 := by
  simp only [List.mem_cons, List.not_mem_nil, or_false] at hwidth
  unfold negative
  rcases hwidth with rfl | rfl | rfl | rfl <;> split_ifs <;> simp <;> omega

theorem length_textHead_le_of_lt (hwidth : width ∈ [1, 2, 4]) (hn : n < 256 ^ width) :
    (textHead n).length ≤ width + 1 := by
  simp only [List.mem_cons, List.not_mem_nil, or_false] at hwidth
  unfold textHead
  rcases hwidth with rfl | rfl | rfl <;> split_ifs <;> simp

theorem lt_of_width (hwidth : width ∈ [1, 2, 4, 8]) (hn : n < 256 ^ width) : n < 2 ^ 64 := by
  simp only [List.mem_cons, List.not_mem_nil, or_false] at hwidth
  rcases hwidth with rfl | rfl | rfl | rfl <;> omega

theorem found_natural (hwidth : width ∈ [1, 2, 4, 8]) (hn : n < 256 ^ width) :
    Found (.int n) (width + 1) := by
  have hlt := lt_of_width hwidth hn
  refine (found_int (by omega) (by omega)).mono ?_
  rw [leastSize, if_neg (by omega), Int.natAbs_natCast]
  exact length_natural_le hwidth hn

theorem found_signed (hwidth : width ∈ [1, 2, 4, 8]) (hn : n < 256 ^ width) :
    Found (.int (ofTwosComplement width n)) (width + 1) := by
  have hlt := lt_of_width hwidth hn
  unfold ofTwosComplement
  split_ifs with hsign
  · exact found_natural hwidth hn
  · -- The absolute value of a negative number is what is missing to the next power of 256.
    have habs : ((n : Int) - (256 ^ width : Nat)).natAbs = 256 ^ width - n := by omega
    have hhalf : 256 ^ width - n ≤ 2 ^ 63 := by
      simp only [List.mem_cons, List.not_mem_nil, or_false] at hwidth
      rcases hwidth with rfl | rfl | rfl | rfl <;> omega
    refine (found_int (by omega) (by omega)).mono ?_
    rw [leastSize, if_pos (by omega), habs]
    exact length_negative_le hwidth (by omega)

theorem found_small {m : Nat} (h : m < 0x80) : Found (.int m) 1 := by
  have hsize : leastSize (.int m) = 1 := by
    rw [leastSize, if_neg (by omega), Int.natAbs_natCast, natural, if_pos h]
    rfl
  exact (found_int (by omega) (by omega)).mono hsize.le

theorem found_smallNegative {m : Nat} (h : 0xE0 ≤ m) (hmax : m < 256) :
    Found (.int ((m : Int) - 256)) 1 := by
  have hsize : leastSize (.int ((m : Int) - 256)) = 1 := by
    rw [leastSize, if_pos (by omega), negative, if_pos (by omega)]
    rfl
  exact (found_int (by omega) (by omega)).mono hsize.le

end Widths

/-! The invariant. -/

/-- The bytes that a container and its complete parts took at least. Those of a list are not
counted. -/
def Container.weight : Container → Nat
  | .list .. => 1
  | .map _ done none => leastSizeEntries done + 1
  | .map _ done (some key) => leastSizeEntries done + leastSize key + 1

def Container.Clean : Container → Prop
  | .list _ done => ∀ v ∈ done, v.Every Packable
  | .map _ done none => EveryEntry Packable done
  | .map _ done (some key) => EveryEntry Packable done ∧ key.Every Packable

def weights : List Container → Nat
  | [] => 0
  | c :: outer => c.weight + weights outer

def Field.Spans (width : Nat) : Field → Prop
  | .natural => width ∈ [1, 2, 4, 8]
  | .signed w => width = w ∧ w ∈ [1, 2, 4, 8]
  | .textLength => width ∈ [1, 2, 4]
  | _ => True

def Payload.headSize (length : Nat) : Payload → Nat
  | .text => (textHead length).length
  | _ => 1

/-- The token has taken so many bytes, or is a payload whose head took more than it had to. -/
inductive Token.Takes : Token → Nat → Prop
  | head : Takes .head 0
  | field {f : Field} (read : Nat) {missing value : Nat} (pos : 0 < missing)
    (spans : f.Spans (read + missing)) (lt : value < 256 ^ read) :
    Takes (.field f missing value) (read + 1)
  | payload {p : Payload} {missing : Nat} {done : Bytes} (pos : 0 < missing) :
    Takes (.payload p missing done) (p.headSize (done.length + missing) + done.length)

/-- What the reader holds behind so many bytes. -/
structure Kept (s : Partial) (n : Nat) : Prop where
  clean : ∀ c ∈ s.containers, c.Clean
  paid : ∃ taken, s.token.Takes taken ∧ weights s.containers + taken ≤ n

theorem kept_head {outer : List Container} {n : Nat} (hclean : ∀ c ∈ outer, c.Clean)
    (hpaid : weights outer ≤ n) : Kept ⟨outer, .head⟩ n :=
  ⟨hclean, 0, .head, hpaid⟩

theorem kept_open {c : Container} {outer : List Container} {n : Nat} (hc : c.Clean)
    (houter : ∀ c ∈ outer, c.Clean) (hpaid : c.weight + weights outer ≤ n) :
    Kept ⟨c :: outer, .head⟩ n :=
  kept_head (List.forall_mem_cons.2 ⟨hc, houter⟩) (by rwa [weights])

/-! The invariant is kept by all that a byte can do. -/

theorem leads_deliver {outer : List Container} {k n : Nat} {v : Value}
    (hclean : ∀ c ∈ outer, c.Clean) (hv : Found v k) (hpaid : weights outer + k ≤ n) :
    (deliver outer v).Meets Kept Found n := by
  obtain ⟨hevery, hsize⟩ := hv
  induction outer generalizing v k with
  | nil =>
    rw [weights, Nat.zero_add] at hpaid
    exact ⟨hevery, hsize.trans hpaid⟩
  | cons c outer ih =>
    obtain ⟨hc, houter⟩ := List.forall_mem_cons.1 hclean
    rw [weights] at hpaid
    match c with
    | .list missing done =>
      have hitems : ∀ item ∈ v :: done, item.Every Packable := List.forall_mem_cons.2 ⟨hevery, hc⟩
      simp only [Container.weight] at hpaid
      unfold deliver
      split
      · have hlist : Found (.list (v :: done).reverse) 1 := by
          apply found_list
          intro item hitem
          exact hitems item (List.mem_reverse.1 hitem)
        exact ih houter (by omega) hlist.every hlist.size
      · apply kept_open
        · exact hitems
        · exact houter
        · simp only [Container.weight]
          omega
    | .map missing done none =>
      simp only [Container.weight] at hpaid
      apply kept_open
      · exact ⟨hc, hevery⟩
      · exact houter
      · simp only [Container.weight]
        omega
    | .map missing done (some key) =>
      have hentries : EveryEntry Packable (Value.insert done key v) := hc.1.insert hc.2 hevery
      have hmap := found_map hentries
      have hinsert := leastSizeEntries_insert done key v
      simp only [Container.weight] at hpaid
      have hput : (if missing ≤ 1 then deliver outer (.map (Value.insert done key v))
          else .more ⟨.map (missing - 1) (Value.insert done key v) none :: outer, .head⟩).Meets
            Kept Found n := by
        split
        · exact ih houter (by omega) hmap.every hmap.size
        · apply kept_open
          · exact hentries
          · exact houter
          · simp only [Container.weight]
            omega
      unfold deliver
      split
      · exact hput
      · exact hput
      · trivial

section Leads

variable {outer : List Container} {n : Nat} (hclean : ∀ c ∈ outer, c.Clean)

include hclean

theorem leads_openList (count : Nat) (hpaid : weights outer + 1 ≤ n) :
    (openList outer count).Meets Kept Found n := by
  unfold openList
  split_ifs
  · trivial
  · trivial
  · exact leads_deliver hclean (found_list (by simp)) hpaid
  · apply kept_open
    · exact List.forall_mem_nil _
    · exact hclean
    · rwa [Nat.add_comm]

theorem leads_openMap (count : Nat) (hpaid : weights outer + 1 ≤ n) :
    (openMap outer count).Meets Kept Found n := by
  unfold openMap
  split_ifs
  · trivial
  · trivial
  · exact leads_deliver hclean (found_map everyEntry_nil) hpaid
  · apply kept_open
    · exact everyEntry_nil
    · exact hclean
    · rwa [Nat.add_comm]

theorem leads_finish {p : Payload} {bytes : Bytes}
    (hpaid : weights outer + p.headSize bytes.length + bytes.length ≤ n) :
    (finish outer (valueOfPayload p bytes)).Meets Kept Found n := by
  cases p with
  | text =>
    unfold valueOfPayload
    dsimp only
    split
    · next t hdecode =>
      obtain ⟨hplain, rfl⟩ := Utf8.decode_eq_ok_iff.1 hdecode
      apply leads_deliver hclean (found_text hplain)
      rwa [textBytes, List.length_append, ← Nat.add_assoc]
    · trivial
  | bytes =>
    simp only [Payload.headSize] at hpaid
    exact leads_deliver hclean (found_of_kind (by simp [Value.kind])) (by omega)
  | ext =>
    simp only [Payload.headSize] at hpaid
    unfold valueOfPayload finish
    dsimp only
    split
    · next v hext =>
      have hkind := kind_of_extOf hext
      exact leads_deliver hclean (found_of_kind (by rcases hkind with h | h <;> simp [h])) (by omega)
    · trivial

theorem leads_startPayload {p : Payload} {length : Nat}
    (hpaid : weights outer + p.headSize length ≤ n) :
    (startPayload outer p length).Meets Kept Found n := by
  unfold startPayload
  split_ifs with hlength
  · apply leads_finish hclean
    rw [hlength] at hpaid
    simpa using hpaid
  · refine ⟨hclean, _, .payload (Nat.pos_of_ne_zero hlength), ?_⟩
    simpa using hpaid

theorem leads_finishField {f : Field} {width value : Nat} (hspans : f.Spans width)
    (hvalue : value < 256 ^ width) (hpaid : weights outer + (width + 1) ≤ n) :
    (finishField outer f value).Meets Kept Found n := by
  cases f with
  | natural => exact leads_deliver hclean (found_natural hspans hvalue) hpaid
  | signed w =>
    obtain ⟨rfl, hwidth⟩ := hspans
    exact leads_deliver hclean (found_signed hwidth hvalue) hpaid
  | single => exact leads_deliver hclean (found_of_kind (by simp [Value.kind])) (by omega)
  | double => exact leads_deliver hclean (found_of_kind (by simp [Value.kind])) (by omega)
  | textLength =>
    have hhead := length_textHead_le_of_lt hspans hvalue
    exact leads_startPayload hclean ((Nat.add_le_add_left hhead _).trans hpaid)
  | bytesLength => exact leads_startPayload hclean (by simp only [Payload.headSize]; omega)
  | extLength => exact leads_startPayload hclean (by simp only [Payload.headSize]; omega)
  | itemCount => exact leads_openList hclean _ (by omega)
  | entryCount => exact leads_openMap hclean _ (by omega)

theorem leads_field {f : Field} {width : Nat} (hpos : 0 < width) (hspans : f.Spans width)
    (hpaid : weights outer + 1 ≤ n) :
    (Progress.more ⟨outer, .field f width 0⟩ : Step).Meets Kept Found n :=
  ⟨hclean, 1, .field 0 hpos (by rwa [Nat.zero_add]) (by decide), hpaid⟩

theorem leads_shortText {length : Nat} (hlength : length < 0x20) (hpaid : weights outer + 1 ≤ n) :
    (startPayload outer .text length).Meets Kept Found n := by
  have hhead : (textHead length).length = 1 := by
    rw [textHead, if_pos hlength]
    rfl
  apply leads_startPayload hclean
  rwa [Payload.headSize, hhead]

theorem leads_onHead (b : UInt8) (hpaid : weights outer + 1 ≤ n) :
    (onHead outer b).Meets Kept Found n := by
  unfold onHead
  dsimp only
  split_ifs with hsmall hmap hlist htext hnegative
  · exact leads_deliver hclean (found_small hsmall) hpaid
  · exact leads_openMap hclean _ hpaid
  · exact leads_openList hclean _ hpaid
  · have hlength : b.toNat - 0xA0 < 0x20 := by omega
    generalize b.toNat - 0xA0 = length at hlength
    exact leads_shortText hclean hlength hpaid
  · exact leads_deliver hclean (found_smallNegative hnegative b.toNat_lt) hpaid
  · have hext (length : Nat) : (startPayload outer .ext length).Meets Kept Found n :=
      leads_startPayload hclean hpaid
    split
    all_goals first
      | exact leads_deliver hclean (found_of_kind (by simp [Value.kind])) hpaid
      | exact leads_field hclean (by decide) (by simp [Field.Spans]) hpaid
      | exact hext _
      | trivial

end Leads

theorem leads_step {s : Partial} {n : Nat} (b : UInt8) (h : Kept s n) :
    (step s b).Meets Kept Found (n + 1) := by
  obtain ⟨outer, token⟩ := s
  obtain ⟨hclean, taken, htakes, hpaid⟩ := h
  replace hclean : ∀ c ∈ outer, c.Clean := hclean
  replace hpaid : weights outer + taken ≤ n := hpaid
  cases htakes with
  | head => exact leads_onHead hclean b (Nat.succ_le_succ hpaid)
  | @field f read missing value pos spans lt =>
    have hmax : b.toNat < 256 := b.toNat_lt
    have hvalue : 256 * value + b.toNat < 256 ^ (read + 1) := by
      rw [Nat.pow_succ']
      omega
    change (if missing ≤ 1 then finishField outer f (256 * value + b.toNat)
      else .more ⟨outer, .field f (missing - 1) (256 * value + b.toNat)⟩ : Step).Meets _ _ _
    split
    · obtain rfl : missing = 1 := by omega
      exact leads_finishField hclean spans hvalue (by omega)
    · have hspans : f.Spans (read + 1 + (missing - 1)) := by
        rwa [show read + 1 + (missing - 1) = read + missing by omega]
      exact ⟨hclean, _, .field (read + 1) (by omega) hspans hvalue, by dsimp only; omega⟩
  | @payload p missing done pos =>
    change (if missing ≤ 1 then finish outer (valueOfPayload p (b :: done).reverse)
      else .more ⟨outer, .payload p (missing - 1) (b :: done)⟩ : Step).Meets _ _ _
    split
    · obtain rfl : missing = 1 := by omega
      apply leads_finish hclean
      rw [List.length_reverse, List.length_cons]
      omega
    · refine ⟨hclean, _, .payload (by omega), ?_⟩
      rw [List.length_cons, show done.length + 1 + (missing - 1) = done.length + missing by omega]
      dsimp only
      omega

theorem found_of_whole {frame : Bytes} {v : Value} (h : framing.Whole frame v) :
    Found v frame.length := by
  apply h.meets (I := Kept) (O := Found)
  · intro s n b hs
    exact leads_step b hs
  · exact kept_head (List.forall_mem_nil _) (Nat.le_refl 0)

end RecordStream.MessagePack
