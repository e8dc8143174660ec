import RecordStream.Proofs.Framing.Course
import RecordStream.Proofs.Text.Utf8
import RecordStream.Wire.MessagePack.Reader
import RecordStream.Wire.MessagePack.Writer

/-!
What the bytes of a value do to the reader. Wherever a value may begin, the bytes that the writer
has for it lead to the delivery of that value and to nothing before their end. Only the nesting
matters, which is why a spelling carries the depth that it adds.
-/

namespace RecordStream.MessagePack

open Framing

def before (outer : List Container) : framing.State := Partial.mk outer .head

def within (outer : List Container) (token : Token) : framing.State := Partial.mk outer token

/-- The bytes are those of the value in all containers that leave room for `depth` more. -/
def Spells (depth : Nat) (bytes : Bytes) (v : Value) : Prop :=
  ∀ outer : List Container, outer.length + depth ≤ maxDepth →
    framing.course (before outer) bytes = some (deliver outer v)

theorem Spells.mono {depth depth' : Nat} {bytes : Bytes} {v : Value} (h : Spells depth bytes v)
    (hdepth : depth ≤ depth') : Spells depth' bytes v :=
  fun outer houter => h outer (by omega)

theorem Spells.whole {depth : Nat} {bytes : Bytes} {v : Value} (h : Spells depth bytes v)
    (hdepth : depth ≤ maxDepth) : framing.Whole bytes v :=
  h [] (by simpa using hdepth)

/-! Tokens of several bytes. -/

def fold (value : Nat) (bytes : Bytes) : Nat := bytes.foldl (fun n b => 256 * n + b.toNat) value

theorem course_field (outer : List Container) (f : Field) (value : Nat) {bytes : Bytes}
    (h : bytes ≠ []) :
    framing.course (within outer (.field f bytes.length value)) bytes =
      some (finishField outer f (fold value bytes)) := by
  induction bytes generalizing value with
  | nil => contradiction
  | cons b rest ih =>
    by_cases hrest : rest = []
    · subst hrest
      rw [course_singleton]
      rfl
    · have hlength := List.length_pos_iff.2 hrest
      have hstep : framing.step (within outer (.field f (rest.length + 1) value)) b =
          .more (within outer (.field f rest.length (256 * value + b.toNat))) :=
        if_neg (by omega)
      rw [List.length_cons, course_cons rest hstep, ih _ hrest]
      rfl

theorem course_payload (outer : List Container) (p : Payload) (done : Bytes) {bytes : Bytes}
    (h : bytes ≠ []) :
    framing.course (within outer (.payload p bytes.length done)) bytes =
      some (finish outer (valueOfPayload p (done.reverse ++ bytes))) := by
  induction bytes generalizing done with
  | nil => contradiction
  | cons b rest ih =>
    by_cases hrest : rest = []
    · subst hrest
      rw [course_singleton, ← List.reverse_cons]
      rfl
    · have hlength := List.length_pos_iff.2 hrest
      have hstep : framing.step (within outer (.payload p (rest.length + 1) done)) b =
          .more (within outer (.payload p rest.length (b :: done))) :=
        if_neg (by omega)
      rw [List.length_cons, course_cons rest hstep, ih _ hrest, List.reverse_cons,
        List.append_assoc]
      rfl

@[simp] theorem length_bigEndian (width n : Nat) : (bigEndian width n).length = width := by
  induction width generalizing n with
  | zero => rfl
  | succ width ih => simp [bigEndian, ih]

theorem fold_bigEndian (value width n : Nat) :
    fold value (bigEndian width n) = value * 256 ^ width + n % 256 ^ width := by
  induction width generalizing n with
  | zero => simp [bigEndian, fold, Nat.mod_one]
  | succ width ih =>
    have hlast : (UInt8.ofNat n).toNat = n % 256 := by simp
    have hsplit : n % 256 ^ (width + 1) = n % 256 + 256 * (n / 256 % 256 ^ width) := by
      rw [Nat.pow_succ', Nat.mod_mul]
    rw [bigEndian, fold, List.foldl_append]
    change 256 * fold value (bigEndian width (n / 256)) + (UInt8.ofNat n).toNat = _
    rw [ih, hlast, hsplit, Nat.pow_succ', Nat.mul_add, Nat.mul_left_comm]
    omega

theorem course_head_field {outer : List Container} {b : UInt8} (f : Field) (width : Nat) {n : Nat}
    (hb : onHead outer b = .more ⟨outer, .field f width 0⟩) (hwidth : 0 < width)
    (hn : n < 256 ^ width) :
    framing.course (before outer) (b :: bigEndian width n) = some (finishField outer f n) := by
  have hne : bigEndian width n ≠ [] := by
    rw [← List.length_pos_iff, length_bigEndian]
    exact hwidth
  have hstep : framing.step (before outer) b =
      .more (within outer (.field f (bigEndian width n).length 0)) := by
    rw [length_bigEndian]
    exact hb
  rw [course_cons _ hstep, course_field outer f 0 hne, fold_bigEndian, Nat.zero_mul, Nat.zero_add,
    Nat.mod_eq_of_lt hn]

/-! Integers. -/

theorem onHead_small {n : Nat} (hn : n < 0x80) (outer : List Container) :
    onHead outer (UInt8.ofNat n) = deliver outer (.int n) := by
  have hb := Utf8.toNat_ofNat (show n < 256 by omega)
  simp only [onHead, hb, if_pos hn]

theorem natural_spells {n : Nat} (hn : n < 2 ^ 64) : Spells 0 (natural n) (.int n) := by
  intro outer _
  unfold natural
  split_ifs with h₁ h₂ h₃ h₄
  · rw [course_singleton]
    exact congrArg some (onHead_small h₁ outer)
  · exact course_head_field .natural 1 rfl (by decide) h₂
  · exact course_head_field .natural 2 rfl (by decide) h₃
  · exact course_head_field .natural 4 rfl (by decide) h₄
  · exact course_head_field .natural 8 rfl (by decide) hn

theorem ofTwosComplement_eq_neg {width m : Nat} (n : Nat) (hm : m + n = 256 ^ width) (hn : n ≤ m) :
    ofTwosComplement width m = -(n : Int) := by
  rw [ofTwosComplement, if_neg (by omega)]
  omega

theorem negative_spells {n : Nat} (hpos : 0 < n) (hn : n ≤ 2 ^ 63) :
    Spells 0 (negative n) (.int (-(n : Int))) := by
  intro outer _
  unfold negative
  split_ifs with h₁ h₂ h₃ h₄
  · have hb := Utf8.toNat_ofNat (show 0x100 - n < 256 by omega)
    have hhead : onHead outer (UInt8.ofNat (0x100 - n)) = deliver outer (.int (-(n : Int))) := by
      simp only [onHead, hb]
      rw [if_neg (by omega), if_neg (by omega), if_neg (by omega), if_neg (by omega),
        if_pos (by omega)]
      congr 2
      omega
    rw [course_singleton]
    exact congrArg some hhead
  · rw [course_head_field (.signed 1) 1 rfl (by decide) (by omega), finishField,
      ofTwosComplement_eq_neg n (by omega) (by omega)]
  · rw [course_head_field (.signed 2) 2 rfl (by decide) (by omega), finishField,
      ofTwosComplement_eq_neg n (by omega) (by omega)]
  · rw [course_head_field (.signed 4) 4 rfl (by decide) (by omega), finishField,
      ofTwosComplement_eq_neg n (by omega) (by omega)]
  · rw [course_head_field (.signed 8) 8 rfl (by decide) (by omega), finishField,
      ofTwosComplement_eq_neg n (by omega) (by omega)]

theorem integer_spells {n : Int} {bytes : Bytes} (h : integer n = .ok bytes) :
    Spells 0 bytes (.int n) := by
  unfold integer at h
  split_ifs at h with hneg hlow hhigh <;> cases h
  · have hspells := negative_spells (n := n.natAbs) (by omega) (by omega)
    rwa [show -(n.natAbs : Int) = n by omega] at hspells
  · have hspells := natural_spells (n := n.natAbs) (by omega)
    rwa [show (n.natAbs : Int) = n by omega] at hspells

theorem integer_isOk_iff {n : Int} :
    (∃ bytes, integer n = .ok bytes) ↔ -2 ^ 63 ≤ n ∧ n ≤ 2 ^ 64 - 1 := by
  unfold integer
  split_ifs <;> simp <;> omega

/-! Texts. -/

theorem course_textHead (outer : List Container) {n : Nat} (hn : n < 2 ^ 32) :
    framing.course (before outer) (textHead n) = some (startPayload outer .text n) := by
  unfold textHead
  split_ifs with h₁ h₂ h₃
  · have hb := Utf8.toNat_ofNat (show 0xA0 + n < 256 by omega)
    have hhead : onHead outer (UInt8.ofNat (0xA0 + n)) = startPayload outer .text n := by
      simp only [onHead, hb]
      rw [if_neg (by omega), if_neg (by omega), if_neg (by omega), if_pos (by omega),
        Nat.add_sub_cancel_left]
    rw [course_singleton]
    exact congrArg some hhead
  · exact course_head_field .textLength 1 rfl (by decide) h₂
  · exact course_head_field .textLength 2 rfl (by decide) h₃
  · exact course_head_field .textLength 4 rfl (by decide) hn

def textBytes (t : Text) : Bytes := textHead (Utf8.bytes t).length ++ Utf8.bytes t

def Writable (t : Text) : Prop := t.hasSurrogate = false ∧ (Utf8.bytes t).length < 2 ^ 32

instance (t : Text) : Decidable (Writable t) := inferInstanceAs (Decidable (_ ∧ _))

theorem text_eq_ok_iff {t : Text} {bytes : Bytes} :
    text t = .ok bytes ↔ Writable t ∧ textBytes t = bytes := by
  unfold text Writable
  cases h : Utf8.encode t with
  | ok b =>
    obtain ⟨hplain, rfl⟩ := Utf8.encode_eq_ok_iff.1 h
    dsimp only
    split_ifs with hroom
    · simp [hplain, hroom, textBytes]
    · simp [hroom]
  | error u =>
    have hsurrogate := Utf8.hasSurrogate_of_encode_eq_error h
    simp [hsurrogate]

theorem text_spells {t : Text} (h : Writable t) : Spells 0 (textBytes t) (.text t) := by
  obtain ⟨hplain, hlength⟩ := h
  intro outer _
  have hvalue : valueOfPayload .text (Utf8.bytes t) = .ok (.text t) := by
    simp only [valueOfPayload, Utf8.decode_bytes hplain]
  have hhead := course_textHead outer hlength
  rw [textBytes]
  by_cases hempty : Utf8.bytes t = []
  · have hstart : startPayload outer .text 0 = deliver outer (.text t) := by
      rw [startPayload, if_pos rfl, ← hempty, hvalue, finish]
    rw [hempty] at hhead ⊢
    rw [List.append_nil, hhead]
    exact congrArg some hstart
  · rw [startPayload, if_neg (by simpa using hempty)] at hhead
    rw [course_append _ hhead]
    have hpayload := course_payload outer .text [] hempty
    rw [List.reverse_nil, List.nil_append, hvalue] at hpayload
    exact hpayload

end RecordStream.MessagePack
