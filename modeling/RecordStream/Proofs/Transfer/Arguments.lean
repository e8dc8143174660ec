import RecordStream.Proofs.Except
import RecordStream.Proofs.Text.Decimal
import RecordStream.Transfer.Job

/-!
What a count and a port may be given as. A word says a port or a count, or it is refused as a bad
argument, unless it is a numeral of too many digits. A number is judged as its numeral is; but a
word with a minus sign in front is no numeral, and so it is the name of a service.
-/

namespace RecordStream

def Refused {α : Type} (x : Except JobFault α) : Prop := ∃ f, x = .error (.argument f)

def Judged {α : Type} (means : α → Prop) (x : Except JobFault α) : Prop :=
  (∃ a, means a ∧ x = .ok a) ∨ (∀ a, ¬means a) ∧ Refused x

/-! What a word means as a port, and as a count. -/

/-- A word that spells a number means that port, if there is one, and any word with another
character in it means the service of that name. -/
inductive PortWord (word : Text) : Port → Prop
  | number {n : Nat} (spells : Decimal.Spells word n) (pos : 1 ≤ n) (le : n ≤ 65535) :
    PortWord word (.number n)
  | service {c : CodePoint} (mem : c ∈ word) (other : c.isDigit = false) :
    PortWord word (.service word)

def TooLong (word : Text) : Prop := Decimal.isNumeral word ∧ Decimal.maxDigits < word.length

instance : DecidablePred TooLong := fun _ => inferInstanceAs (Decidable (_ ∧ _))

section Words

variable {word : Text} {port : Port} {n : Nat}

theorem isNumeral_iff_exists : Decimal.isNumeral word ↔ ∃ n, Decimal.Spells word n := by
  simp [Decimal.spells_iff]

theorem isNumeral_eq_false {c : CodePoint} (hmem : c ∈ word) (hother : c.isDigit = false) :
    Decimal.isNumeral word = false := by
  rw [Decimal.isNumeral, List.all_eq_false.2 ⟨c, hmem, by simp [hother]⟩, Bool.and_false]

theorem exists_other (hsome : word ≠ []) (hnumeral : ¬Decimal.isNumeral word) :
    ∃ c ∈ word, c.isDigit = false := by
  simpa [Decimal.isNumeral, hsome] using hnumeral

theorem short_or_other (h : ¬TooLong word) :
    word.length ≤ Decimal.maxDigits ∨ ∃ c ∈ word, c.isDigit = false := by
  by_cases hlength : word.length ≤ Decimal.maxDigits
  · exact .inl hlength
  · have hsome : word ≠ [] := by
      rintro rfl
      exact hlength (Nat.zero_le _)
    exact .inr (exists_other hsome fun hnumeral => h ⟨hnumeral, by omega⟩)

theorem length_le_of_spells (h : Decimal.Spells word n) (hshort : ¬TooLong word) :
    word.length ≤ Decimal.maxDigits := by
  by_contra hlong
  exact hshort ⟨isNumeral_iff_exists.2 ⟨n, h⟩, by omega⟩

theorem parseNumeral_of_tooLong (h : TooLong word) :
    parseNumeral word = .error (.digits (.reading word.length)) := by
  rw [parseNumeral, Decimal.read, if_neg (Nat.not_le.2 h.2)]

theorem parsePort_of_tooLong (h : TooLong word) :
    parsePort (.text word) = .error (.digits (.reading word.length)) := by
  rw [parsePort, if_pos h.1, parseNumeral_of_tooLong h]
  rfl

theorem parsePort_of_spells (h : Decimal.Spells word n)
    (hlength : word.length ≤ Decimal.maxDigits) : parsePort (.text word) = portOfNumber n := by
  rw [parsePort, if_pos (Decimal.spells_iff.1 h).1, parseNumeral, h.read hlength]
  rfl

theorem parsePort_of_other {c : CodePoint} (hmem : c ∈ word) (hother : c.isDigit = false) :
    parsePort (.text word) = .ok (.service word) := by
  have hne : word.isEmpty = false := List.isEmpty_eq_false_iff.2 (List.ne_nil_of_mem hmem)
  simp [parsePort, isNumeral_eq_false hmem hother, hne]

theorem parsePort_of_word (h : PortWord word port) (hlength : word.length ≤ Decimal.maxDigits) :
    parsePort (.text word) = .ok port := by
  cases h with
  | number spells pos le =>
    rw [parsePort_of_spells spells hlength]
    exact if_pos (by omega)
  | service mem other => exact parsePort_of_other mem other

theorem parsePort_of_no_word (h : ∀ port, ¬PortWord word port)
    (hlength : word.length ≤ Decimal.maxDigits) :
    ∃ f, parsePort (.text word) = .error (.argument f) ∧ "PORT" <+: f.message := by
  by_cases hnumeral : Decimal.isNumeral word
  · obtain ⟨n, hn⟩ := isNumeral_iff_exists.1 hnumeral
    have hrange : ¬(0 < (n : Int) ∧ (n : Int) < 65536) := by
      intro hrange
      exact h (.number n) (.number hn (by omega) (by omega))
    refine ⟨.portRange n, ?_, ?_⟩
    · rw [parsePort_of_spells hn hlength, portOfNumber, if_neg hrange, JobFault.about,
        if_pos (hn.fits hlength)]
    · exact (by decide : ("PORT" : Text) <+: _).trans (List.prefix_append _ _)
  · have hempty : word = [] := by
      by_contra hne
      obtain ⟨c, hmem, hother⟩ := exists_other hne hnumeral
      exact h (.service word) (.service hmem hother)
    subst hempty
    exact ⟨.emptyPort, rfl, by decide⟩

theorem parsePort_word (h : ¬TooLong word) :
    (∃ port, PortWord word port ∧ parsePort (.text word) = .ok port) ∨
      (∀ port, ¬PortWord word port) ∧
        ∃ f, parsePort (.text word) = .error (.argument f) ∧ "PORT" <+: f.message := by
  obtain hlength | ⟨c, hmem, hother⟩ := short_or_other h
  · by_cases hword : ∃ port, PortWord word port
    · obtain ⟨port, hport⟩ := hword
      exact .inl ⟨port, hport, parsePort_of_word hport hlength⟩
    · have hnone := not_exists.1 hword
      exact .inr ⟨hnone, parsePort_of_no_word hnone hlength⟩
  · exact .inl ⟨.service word, .service hmem hother, parsePort_of_other hmem hother⟩

theorem portWord_of_parsePort (h : parsePort (.text word) = .ok port) :
    PortWord word port ∧ ¬TooLong word := by
  have hshort : ¬TooLong word := by
    intro hlong
    rw [parsePort_of_tooLong hlong] at h
    cases h
  obtain ⟨port', hword, hport⟩ | ⟨-, f, hf, -⟩ := parsePort_word hshort
  · cases h.symm.trans hport
    exact ⟨hword, hshort⟩
  · cases h.symm.trans hf

theorem parseCount_of_tooLong (h : TooLong word) :
    parseCount (.text word) = .error (.digits (.reading word.length)) := by
  rw [parseCount, if_pos h.1, parseNumeral_of_tooLong h]

theorem parseCount_of_spells (h : Decimal.Spells word n)
    (hlength : word.length ≤ Decimal.maxDigits) : parseCount (.text word) = .ok n := by
  rw [parseCount, if_pos (Decimal.spells_iff.1 h).1, parseNumeral, h.read hlength]

theorem parseCount_of_not_spells (h : ∀ n, ¬Decimal.Spells word n) :
    ∃ f, parseCount (.text word) = .error (.argument f) ∧ "COUNT" <+: f.message := by
  have hnumeral : ¬Decimal.isNumeral word := fun hword => by
    obtain ⟨n, hn⟩ := isNumeral_iff_exists.1 hword
    exact h n hn
  refine ⟨.malformedCount (.text word), ?_, ?_⟩
  · rw [parseCount, if_neg hnumeral]
  · exact (by decide : ("COUNT" : Text) <+: _).trans (List.prefix_append _ _)

theorem parseCount_word (h : ¬TooLong word) :
    (∃ n, Decimal.Spells word n ∧ parseCount (.text word) = .ok n) ∨
      (∀ n, ¬Decimal.Spells word n) ∧
        ∃ f, parseCount (.text word) = .error (.argument f) ∧ "COUNT" <+: f.message := by
  by_cases hword : ∃ n, Decimal.Spells word n
  · obtain ⟨n, hn⟩ := hword
    exact .inl ⟨n, hn, parseCount_of_spells hn (length_le_of_spells hn h)⟩
  · have hnone := not_exists.1 hword
    exact .inr ⟨hnone, parseCount_of_not_spells hnone⟩

end Words

/-! A number and its numeral. -/

/-- Both give the value if it is to be accepted, and otherwise both are refused. -/
structure JudgedAlike {α : Type} (accepted : Prop) (a : α) (x y : Except JobFault α) : Prop where
  given : accepted → x = .ok a ∧ y = .ok a
  refused : ¬accepted → Refused x ∧ Refused y

section Numbers

theorem about_of_fits {n : Int} (h : Decimal.fits n) (f : ArgumentFault) :
    JobFault.about n f = .argument f :=
  if_pos h

theorem spells_ofInt (n : Nat) : Decimal.Spells (Decimal.ofInt n) n := by
  refine ⟨0, ?_⟩
  rw [Decimal.ofInt, if_neg (by omega), Int.natAbs_natCast]
  rfl

theorem dash_mem_ofInt {n : Int} (h : n < 0) : CodePoint.ofChar '-' ∈ Decimal.ofInt n := by
  rw [Decimal.ofInt, if_pos h]
  exact List.mem_cons_self

theorem judged_count {n : Int} (hfits : Decimal.fits n) :
    JudgedAlike (0 ≤ n) n.toNat (parseCount (.int n)) (parseCount (.text (Decimal.ofInt n))) := by
  constructor
  · intro hpos
    obtain ⟨k, rfl⟩ := Int.eq_ofNat_of_zero_le hpos
    refine ⟨by rw [parseCount, if_neg (by omega)], ?_⟩
    exact parseCount_of_spells (spells_ofInt k) (Decimal.length_ofInt_natCast_le hfits)
  · intro hneg
    refine ⟨⟨.negativeCount n, ?_⟩, ?_⟩
    · rw [parseCount, if_pos (by omega), about_of_fits hfits]
    · have hnone (k : Nat) : ¬Decimal.Spells (Decimal.ofInt n) k := by
        intro hspells
        have hnumeral := (Decimal.spells_iff.1 hspells).1
        rw [isNumeral_eq_false (dash_mem_ofInt (by omega)) (by decide)] at hnumeral
        cases hnumeral
      obtain ⟨f, hf, -⟩ := parseCount_of_not_spells hnone
      exact ⟨f, hf⟩

theorem refused_portOfNumber {n : Int} (hfits : Decimal.fits n) (h : ¬(1 ≤ n ∧ n ≤ 65535)) :
    Refused (portOfNumber n) :=
  ⟨.portRange n, by rw [portOfNumber, if_neg (by omega), about_of_fits hfits]⟩

theorem parsePort_ofInt {n : Nat} (hfits : Decimal.fits n) :
    parsePort (.text (Decimal.ofInt n)) = parsePort (.int n) :=
  parsePort_of_spells (spells_ofInt n) (Decimal.length_ofInt_natCast_le hfits)

theorem judged_port {n : Int} (hfits : Decimal.fits n) (hpos : 0 ≤ n) :
    JudgedAlike (1 ≤ n ∧ n ≤ 65535) (.number n) (parsePort (.int n))
      (parsePort (.text (Decimal.ofInt n))) := by
  obtain ⟨k, rfl⟩ := Int.eq_ofNat_of_zero_le hpos
  rw [parsePort_ofInt hfits]
  constructor
  · intro hrange
    have haccepted : parsePort (.int k) = .ok (.number k) := if_pos (by omega)
    exact ⟨haccepted, haccepted⟩
  · intro hrange
    have hrefused : Refused (parsePort (.int k)) := refused_portOfNumber hfits hrange
    exact ⟨hrefused, hrefused⟩

/-- A number and its numeral are judged alike as counts, and as ports if the number is not negative.
A negative port is refused, and the word for it names a service. -/
theorem numbers_judged_alike {n : Int} (hfits : Decimal.fits n) :
    let word := Decimal.ofInt n
    JudgedAlike (0 ≤ n) n.toNat (parseCount (.int n)) (parseCount (.text word)) ∧
    (0 ≤ n → JudgedAlike (1 ≤ n ∧ n ≤ 65535) (.number n) (parsePort (.int n))
      (parsePort (.text word))) ∧
    (n < 0 → Refused (parsePort (.int n)) ∧ parsePort (.text word) = .ok (.service word)) := by
  refine ⟨judged_count hfits, judged_port hfits, fun hneg => ⟨?_, ?_⟩⟩
  · exact refused_portOfNumber hfits (by omega)
  · exact parsePort_of_other (dash_mem_ofInt hneg) (by decide)

theorem numbers_judged_alike_limit :
    (Decimal.fits 65535 ∧ parsePort (.text "65535") = .ok (.number 65535)) ∧
      Decimal.fits 65536 ∧ Refused (parsePort (.int 65536)) ∧
        Refused (parsePort (.text "65536")) := by
  have hlast : Decimal.fits 65535 := by decide
  have hbehind : Decimal.fits 65536 := by decide
  refine ⟨⟨hlast, ?_⟩, hbehind, ?_⟩
  · exact (((numbers_judged_alike hlast).2.1 (by decide)).given (by decide)).2
  · exact ((numbers_judged_alike hbehind).2.1 (by decide)).refused (by decide)

/-- As a number it is no port, and as a word it is the name of a service. -/
theorem minus_one_judged_apart :
    Decimal.fits (-1) ∧ ¬∃ accepted, JudgedAlike accepted (.number (-1)) (parsePort (.int (-1)))
      (parsePort (.text (Decimal.ofInt (-1)))) := by
  refine ⟨by decide, ?_⟩
  rintro ⟨accepted, halike⟩
  by_cases h : accepted
  · exact nomatch (halike.given h).1
  · obtain ⟨f, hf⟩ := (halike.refused h).2
    cases hf

end Numbers

end RecordStream
