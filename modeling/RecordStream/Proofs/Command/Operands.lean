import RecordStream.Proofs.Command.Reading
import RecordStream.Proofs.Command.Send
import RecordStream.Proofs.Transfer.Arguments
import RecordStream.Proofs.Transfer.Completion

/-!
Command lines of operands alone. The sending program does what the words for host, port and count
say, or names the one that says nothing.
-/

namespace RecordStream

namespace Command.Send

variable {around : Surroundings} {host port count : Text} {outcome : DialOutcome}
  {channel : Channel} {watch : Stopwatch}

def wordSettings (host port count : Text) : Settings :=
  { host, port := .text port, count := .text count }

theorem parse_words (hhost : host.head? ≠ some dash) (hport : port.head? ≠ some dash)
    (hcount : count.head? ≠ some dash) :
    parse grammar {} [host, port, count] = .ok (wordSettings host port count) := by
  have hwords : ∀ t ∈ [host, port, count], t.head? ≠ some dash := by
    simp [hhost, hport, hcount]
  rw [parse_operands hwords (by simp) rfl]
  rfl

abbrev jobOfWords (host port count : Text) : Except JobFault Job :=
  Job.ofArguments host (.text port) (.text count) Encoding.msgpack.name Record.defaultSource

def wordJob (host : Text) (dest : Port) (n : Nat) : Job where
  target := ⟨host, dest⟩
  count := n

/-- The second or third word means nothing, and the program says which. -/
structure Run.Rejected (r : Run) (name : Text) : Prop where
  ending : r.outcome.ending = .exit ExitCode.badArgument
  named : name <:+: r.outcome.stderr
  idle : r.Idle

theorem infix_complaint {name message : Text} (h : name <+: message) :
    name <:+: complaint program message :=
  h.isInfix.trans ⟨program ++ ": error: ", "\n", rfl⟩

theorem rejected_of_fault {arguments : List Text} {s : Settings} {encoding : Encoding}
    {f : ArgumentFault} {name : Text} (hparse : parse grammar {} arguments = .ok s)
    (hencoding : s.base.chosenEncoding = .ok encoding)
    (hjob : Job.ofArguments s.host s.port s.count encoding.name s.source = .error (.argument f))
    (hname : name <+: f.message) (script : List SendOutcome) :
    (run around arguments outcome { outcomes := script } watch).Rejected name := by
  have htask : s.task around = .error (.argument f) := by
    simp only [Settings.task, hencoding, hjob]
  have hplan : plan around arguments =
      .inl { ending := .exit ExitCode.badArgument, stderr := complaint program f.message } := by
    simp only [plan, hparse, htask]
  simp only [run, hplan]
  exact ⟨rfl, infix_complaint hname, ⟨rfl, rfl, rfl⟩⟩

section Arguments

variable {given counted : Value} {encoding : Encoding} {source : Given Text} {fault : JobFault}

theorem ofArguments_of_port (h : parsePort given = .error fault) :
    Job.ofArguments host given counted encoding.name source = .error fault := by
  rw [Job.ofArguments, ofName_name, h]
  rfl

theorem ofArguments_of_count {dest : Port} (hport : parsePort given = .ok dest)
    (h : parseCount counted = .error fault) :
    Job.ofArguments host given counted encoding.name source = .error fault := by
  rw [Job.ofArguments, ofName_name, hport, h]
  rfl

end Arguments

theorem jobOfWords_eq_ok {dest : Port} {n : Nat} (hport : parsePort (.text port) = .ok dest)
    (h : parseCount (.text count) = .ok n) :
    jobOfWords host port count = .ok (wordJob host dest n) := by
  rw [jobOfWords, Job.ofArguments, ofName_name, hport, h]
  rfl

theorem sent_wordJob {dest : Port} {n : Nat} (hdialled : dest.dialled = .ok dest) (hn : n < 2 ^ 63)
    {script : List SendOutcome} (hscript : ∀ o ∈ script, o.stops = false) (own : Endpoint)
    (console : Console) {r : Run}
    (hr : r = Task.run ⟨wordJob host dest n, console⟩ around (.connected own) script watch) :
    r.outcome.ending = .exit ExitCode.success ∧
      ∃ frames, (Emitter.new .msgpack Record.defaultSource).Frames 0 n frames ∧
        r.channel.taken = frames.flatten := by
  have hencoding : (wordJob host dest n).encoding = .msgpack := rfl
  obtain ⟨frames, stats, hframes, hresult, htaken⟩ :=
    Emission.emit_whole hencoding rfl (by decide) (by decide) rfl hn hdialled hscript own watch
  rw [hr]
  refine ⟨?_, frames, hframes, htaken⟩
  simp only [Task.run, Task.report, hresult]
  rfl

/-- Three words without a dash in front say everything. A port and a count that mean something make
the program dial exactly that port and send exactly so many records, and otherwise it names the first
of the two that means nothing and dials nobody. -/
theorem run_words (around : Surroundings) (host port count : Text)
    (hhost : host.head? ≠ some dash) (hport : port.head? ≠ some dash)
    (hcount : count.head? ≠ some dash) (hport_length : port.length ≤ Decimal.maxDigits)
    (hcount_length : count.length ≤ Decimal.maxDigits)
    (hsmall : ∀ n, Decimal.Spells count n → n < 2 ^ 63) (outcome : DialOutcome)
    (script : List SendOutcome) (watch : Stopwatch) :
    let r := run around [host, port, count] outcome { outcomes := script } watch
    (∀ dest n, PortWord port dest → Decimal.Spells count n →
      r.dialled = [⟨⟨host, dest⟩, none⟩] ∧
      ∀ own, outcome = .connected own → (∀ o ∈ script, o.stops = false) →
        r.outcome.ending = .exit ExitCode.success ∧
        ∃ frames, (Emitter.new .msgpack Record.defaultSource).Frames 0 n frames ∧
          r.channel.taken = frames.flatten) ∧
    ((∀ dest, ¬PortWord port dest) → r.Rejected "PORT") ∧
    ((∃ dest, PortWord port dest) → (∀ n, ¬Decimal.Spells count n) → r.Rejected "COUNT") := by
  intro r
  have hparse := parse_words hhost hport hcount
  refine ⟨?_, ?_, ?_⟩
  · intro dest n hdest hn
    have hdest := parsePort_of_word hdest hport_length
    have hjob : jobOfWords host port count = .ok (wordJob host dest n) :=
      jobOfWords_eq_ok hdest (parseCount_of_spells hn hcount_length)
    have hdialled := dialled_of_parsePort hdest
    have hrun : r = Task.run ⟨wordJob host dest n, _⟩ around outcome script watch :=
      run_of_task hparse (Settings.task_eq_ok rfl hjob (BaseSettings.console_of_value rfl)) rfl script
    refine ⟨?_, ?_⟩
    · rw [hrun]
      exact Emission.emit_dialled hdialled
    · rintro own rfl hscript
      exact sent_wordJob hdialled (hsmall n hn) hscript own _ hrun
  · intro hnone
    obtain ⟨f, hf, hname⟩ := parsePort_of_no_word hnone hport_length
    exact rejected_of_fault hparse rfl (ofArguments_of_port hf) hname script
  · rintro ⟨dest, hdest⟩ hnone
    obtain ⟨f, hf, hname⟩ := parseCount_of_not_spells hnone
    exact rejected_of_fault hparse rfl
      (ofArguments_of_count (parsePort_of_word hdest hport_length) hf) hname script

def wordRun (host port count : Text) : Run :=
  run ⟨false, ⟨0, 0⟩⟩ [host, port, count] (.connected ⟨"127.0.0.1", 40000⟩)
    { outcomes := [.takes 7] } ⟨Binary64.zero, Binary64.zero⟩

theorem run_words_zeros :
    ((wordRun "h" "0080" "02").dialled = [⟨⟨"h", .number 80⟩, none⟩] ∧
      (wordRun "h" "0080" "02").outcome.ending = .exit ExitCode.success ∧
      ∃ frames, (Emitter.new .msgpack "service").Frames 0 2 frames ∧
        (wordRun "h" "0080" "02").channel.taken = frames.flatten) ∧
    (wordRun "h" "65536" "02").Rejected "PORT" ∧ (wordRun "h" "http" "\u0662").Rejected "COUNT" := by
  have hvalue {t : Text} {m n : Nat} (h : Decimal.Spells t n) (hm : Decimal.value t = m) : m = n :=
    hm.symm.trans (Decimal.spells_iff.1 h).2
  have hfew (n : Nat) (h : Decimal.Spells "02" n) : n < 2 ^ 63 := by
    rw [← hvalue h (m := 2) (by decide)]
    decide
  have hnone (n : Nat) : ¬Decimal.Spells "\u0662" n := fun h =>
    absurd (Decimal.spells_iff.1 h).1 (by decide)
  have htwo : Decimal.Spells "02" 2 := Decimal.spells_iff.2 (by decide)
  have hport : PortWord "0080" (.number 80) :=
    .number (n := 80) (Decimal.spells_iff.2 (by decide)) (by decide) (by decide)
  have hservice : PortWord "http" (.service "http") := .service List.mem_cons_self (by decide)
  have hlarge (dest : Port) : ¬PortWord "65536" dest := by
    rintro (⟨h, -, hle⟩ | ⟨hmem, hother⟩)
    · rw [← hvalue h (m := 65536) (by decide)] at hle
      exact absurd hle (by decide)
    · exact absurd (isNumeral_eq_false hmem hother) (by decide)
  have hrun (port count : Text) (hport : port.head? ≠ some dash) (hcount : count.head? ≠ some dash)
      (hport_length : port.length ≤ Decimal.maxDigits)
      (hcount_length : count.length ≤ Decimal.maxDigits)
      (hsmall : ∀ n, Decimal.Spells count n → n < 2 ^ 63) :=
    run_words ⟨false, ⟨0, 0⟩⟩ "h" port count (by decide) hport hcount hport_length hcount_length
      hsmall (.connected ⟨"127.0.0.1", 40000⟩) [.takes 7] ⟨Binary64.zero, Binary64.zero⟩
  obtain ⟨hdialled, hsent⟩ :=
    (hrun "0080" "02" (by decide) (by decide) (by decide) (by decide) hfew).1 _ 2 hport htwo
  refine ⟨⟨hdialled, hsent _ rfl (by decide)⟩, ?_, ?_⟩
  · exact (hrun "65536" "02" (by decide) (by decide) (by decide) (by decide) hfew).2.1 hlarge
  · exact (hrun "http" "\u0662" (by decide) (by decide) (by decide) (by decide)
      fun n h => absurd h (hnone n)).2.2 ⟨_, hservice⟩ hnone

end Command.Send

end RecordStream
