import RecordStream.Proofs.Command.Operands

/-!
Bad ports and counts. The program names the one that is bad and ends with the code for a bad
argument, but a numeral of too many digits is not even refused: no code comes out for it.
-/

namespace RecordStream.Command.Send

structure Run.Overflowed (r : Run) (word : Text) : Prop where
  ending : r.outcome.ending = .crash (.job (.digits (.reading word.length)))
  idle : r.Idle

/-- What the run says about its port and its count. The count is only looked at behind a port. -/
structure Run.Judges (r : Run) (port : Text) (count : Value) : Prop where
  badPort : ¬TooLong port → (∀ dest, ¬PortWord port dest) → r.Rejected "PORT"
  badCount : ∀ dest word, PortWord port dest → ¬TooLong port → count = .text word →
    (∀ n, ¬Decimal.Spells word n) → r.Rejected "COUNT"
  longPort : TooLong port → r.Overflowed port
  longCount : ∀ dest word, PortWord port dest → ¬TooLong port → count = .text word →
    TooLong word → r.Overflowed word

section

variable {around : Surroundings} {arguments : List Text} {s : Settings} {encoding : Encoding}
  {outcome : DialOutcome} {watch : Stopwatch} {word : Text}

theorem overflowed_of_fault (hparse : parse grammar {} arguments = .ok s)
    (hencoding : s.base.chosenEncoding = .ok encoding)
    (hjob : Job.ofArguments s.host s.port s.count encoding.name s.source =
      .error (.digits (.reading word.length))) (script : List SendOutcome) :
    (run around arguments outcome { outcomes := script } watch).Overflowed word := by
  have htask : s.task around = .error (.crash (.job (.digits (.reading word.length)))) := by
    simp only [Settings.task, hencoding, hjob]
  have hplan : plan around arguments =
      .inl { ending := .crash (.job (.digits (.reading word.length))) } := by
    simp only [plan, hparse, htask]
  simp only [run, hplan]
  exact ⟨rfl, ⟨rfl, rfl, rfl⟩⟩

theorem judges_run {port : Text} (hparse : parse grammar {} arguments = .ok s)
    (hencoding : s.base.encoding = .value encoding) (hport : s.port = .text port)
    (script : List SendOutcome) :
    (run around arguments outcome { outcomes := script } watch).Judges port s.count := by
  have hchosen := BaseSettings.chosenEncoding_of_value hencoding
  -- Behind a port that means something the count alone decides.
  have haccepted {dest : Port} (hword : PortWord port dest) (hshort : ¬TooLong port) :
      ∃ dest, parsePort s.port = .ok dest := by
    obtain ⟨dest', -, hdest⟩ | ⟨hnone, -⟩ := parsePort_word hshort
    · exact ⟨dest', hport ▸ hdest⟩
    · exact absurd hword (hnone dest)
  constructor
  · intro hshort hnone
    obtain ⟨dest, hword, -⟩ | ⟨-, f, hf, hname⟩ := parsePort_word hshort
    · exact absurd hword (hnone dest)
    · exact rejected_of_fault hparse hchosen (ofArguments_of_port (hport ▸ hf)) hname script
  · intro dest word hword hshort hcount hnone
    obtain ⟨dest, hdest⟩ := haccepted hword hshort
    obtain ⟨f, hf, hname⟩ := parseCount_of_not_spells hnone
    exact rejected_of_fault hparse hchosen (ofArguments_of_count hdest (hcount ▸ hf)) hname script
  · intro hlong
    exact overflowed_of_fault hparse hchosen
      (ofArguments_of_port (hport ▸ parsePort_of_tooLong hlong)) script
  · intro dest word hword hshort hcount hlong
    obtain ⟨dest, hdest⟩ := haccepted hword hshort
    exact overflowed_of_fault hparse hchosen
      (ofArguments_of_count hdest (hcount ▸ parseCount_of_tooLong hlong)) script

end

/-- A word is accepted or refused as a port and as a count, for what it means, unless it is a
numeral of too many digits. A program that is given such words ends with the code for a bad argument
and names the one that is bad; for a numeral that is too long it ends with no code. -/
theorem words_judged (word : Text) :
    (¬TooLong word → Judged (PortWord word) (parsePort (.text word)) ∧
      Judged (Decimal.Spells word) (parseCount (.text word))) ∧
    (TooLong word →
      parsePort (.text word) = .error (.digits (.reading word.length)) ∧
      parseCount (.text word) = .error (.digits (.reading word.length))) ∧
    ∀ (arguments : List Text) (s : Settings) (encoding : Encoding),
      parse grammar {} arguments = .ok s → s.base.encoding = .value encoding →
      s.port = .text word →
      ∀ around outcome script watch,
        (run around arguments outcome { outcomes := script } watch).Judges word s.count := by
  refine ⟨fun hshort => ⟨?_, ?_⟩, fun hlong => ⟨?_, ?_⟩, ?_⟩
  · obtain haccepted | ⟨hnone, f, hf, -⟩ := parsePort_word hshort
    · exact .inl haccepted
    · exact .inr ⟨hnone, f, hf⟩
  · obtain haccepted | ⟨hnone, f, hf, -⟩ := parseCount_word hshort
    · exact .inl haccepted
    · exact .inr ⟨hnone, f, hf⟩
  · exact parsePort_of_tooLong hlong
  · exact parseCount_of_tooLong hlong
  · intro arguments s encoding hparse hencoding hport around outcome script watch
    exact judges_run hparse hencoding hport script

theorem words_judged_sign :
    (wordRun "h" "65536" "1").Rejected "PORT" ∧ (wordRun "h" "http" "-1").Rejected "COUNT" := by
  have hjudges (port count : Text)
      (hparse : parse grammar {} ["h", port, count] = .ok (wordSettings "h" port count)) :
      (wordRun "h" port count).Judges port (.text count) :=
    (words_judged port).2.2 _ _ .msgpack hparse rfl rfl _ _ _ _
  have hlarge (dest : Port) : ¬PortWord "65536" dest := by
    rintro (⟨h, -, hle⟩ | ⟨hmem, hother⟩)
    · rw [← (Decimal.spells_iff.1 h).2] at hle
      exact absurd hle (by decide)
    · exact absurd (isNumeral_eq_false hmem hother) (by decide)
  have hsign (n : Nat) : ¬Decimal.Spells "-1" n := fun h =>
    absurd (Decimal.spells_iff.1 h).1 (by decide)
  have hservice : PortWord "http" (.service "http") := .service List.mem_cons_self (by decide)
  refine ⟨?_, ?_⟩
  · exact (hjudges "65536" "1" rfl).badPort (by decide) hlarge
  · exact (hjudges "http" "-1" rfl).badCount _ _ hservice (by decide) rfl hsign

def longNumeral : Text := List.replicate (Decimal.maxDigits + 1) (CodePoint.ofChar '9')

theorem tooLong_longNumeral : TooLong longNumeral := by
  refine ⟨?_, ?_⟩
  · simp [Decimal.isNumeral, longNumeral]
    decide
  · rw [longNumeral, List.length_replicate]
    exact Nat.lt_succ_self _

/-- It is neither accepted nor refused, and no code comes out. -/
theorem no_code_of_longNumeral :
    ¬Judged (PortWord longNumeral) (parsePort (.text longNumeral)) ∧
      ¬Judged (Decimal.Spells longNumeral) (parseCount (.text longNumeral)) ∧
      ∀ code, (wordRun "h" longNumeral "1").outcome.ending ≠ .exit code := by
  have hlong := tooLong_longNumeral
  have hparse : parse grammar {} ["h", longNumeral, "1"] = .ok _ :=
    parse_words (by decide) (by decide) (by decide)
  refine ⟨?_, ?_, ?_⟩
  · rw [parsePort_of_tooLong hlong]
    rintro (⟨port, -, h⟩ | ⟨-, f, h⟩) <;> cases h
  · rw [parseCount_of_tooLong hlong]
    rintro (⟨n, -, h⟩ | ⟨-, f, h⟩) <;> cases h
  · intro code hcode
    have hjudges : (wordRun "h" longNumeral "1").Judges longNumeral (.text "1") :=
      judges_run hparse rfl rfl [.takes 7]
    cases hcode.symm.trans (hjudges.longPort hlong).ending

end RecordStream.Command.Send
