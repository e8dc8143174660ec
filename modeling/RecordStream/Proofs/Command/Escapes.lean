import RecordStream.Proofs.Command.Send
import RecordStream.Proofs.Transfer.Completion

/-!
What the sending program does not turn into an exit code. Once the command line is accepted every
failure has a code, but for a log level that is a blank, a source that cannot be written in a record
that is encoded, and a rate beyond double precision.
-/

namespace RecordStream.Command.Send

/-- A record is encoded: the first one for a dump, or one to be sent. -/
def Settings.Encodes (s : Settings) (job : Job) (outcome : DialOutcome) : Prop :=
  s.dump = true ∨ (∃ own, outcome = .connected own) ∧ 0 < job.count

inductive Crash.Unwritten (fault : EncodeFault) : Crash → Prop
  | dump : Unwritten fault (.encode fault)
  | send : Unwritten fault (.emission (.run (.encode fault)))

/-- The run has a code. Only a rate beyond double precision has none, and that takes so many records
or bytes. -/
def Run.Converted (r : Run) (job : Job) : Prop :=
  (∃ code ∈ [ExitCode.success, ExitCode.connection, ExitCode.transfer],
    r.outcome.ending = .exit code) ∨
  ∃ fault, r.outcome.ending = .crash (.emission (.rate fault)) ∧
    (2 ^ 960 ≤ job.count.natAbs ∨ 2 ^ 960 ≤ r.channel.taken.length)

def Run.Escaped (r : Run) (fault : EncodeFault) : Prop :=
  ∃ c, r.outcome.ending = .crash c ∧ c.Unwritten fault ∧ r.channel.taken = []

/-! The count of an accepted command line can be written. -/

section Count

variable {around : Surroundings} {arguments : List Text} {s : Settings} {t : Task}

def CountWord (count : Value) : Prop := count = .null ∨ ∃ t, count = .text t

theorem countWord_of_parse (h : parse grammar {} arguments = .ok s) : CountWord s.count := by
  have hkeeps : grammar.Keeps fun s => CountWord s.count := by
    refine ⟨?_, ?_⟩
    · simp only [grammar, List.cons_append, List.nil_append, List.forall_mem_cons]
      refine ⟨trivial, ?_, fun s hs => hs, keeps_baseRules_of_put fun s b hs => hs⟩
      intro s given s' hs h
      cases h
      exact hs
    · simp only [grammar, List.forall_mem_cons]
      refine ⟨fun s given hs => hs, fun s given hs => hs, ?_, by simp⟩
      intro s given hs
      cases given with
      | value t => exact .inr ⟨t, rfl⟩
      | blank => exact hs
  exact hkeeps.parse (.inl rfl) h

theorem fits_of_parseCount {count : Value} {n : Nat} (hword : CountWord count)
    (h : parseCount count = .ok n) : Decimal.fits n := by
  obtain rfl | ⟨t, rfl⟩ := hword
  · cases h
    decide
  · unfold parseCount parseNumeral Decimal.read at h
    dsimp only at h
    split_ifs at h with hnumeral hlength
    · cases h
      exact (Decimal.spells_iff.2 ⟨hnumeral, rfl⟩).fits hlength

theorem Settings.Asks.fits (hparse : parse grammar {} arguments = .ok s) (hasks : s.Asks around t) :
    Decimal.fits t.job.count := by
  obtain ⟨n, hn, hcount⟩ := hasks.count
  rw [hcount]
  exact fits_of_parseCount (countWord_of_parse hparse) hn

end Count

/-! The dump. -/

section Dump

variable {job : Job}

theorem dumpFirst_of_frame {r : Record} (hrecord : Record.forIndex 0 job.source = .ok r) :
    dumpFirst job =
      match job.encoding.frame r with
      | .ok frame => .ok (Hexdump.dump frame 0 16 ++ "\n")
      | .error fault => .error (.encode fault) := by
  unfold dumpFirst
  rw [hrecord]
  dsimp only
  rw [Codec.pack_new]
  cases job.encoding.frame r <;> rfl

theorem dumpFirst_cases (job : Job) :
    ((Emission.emitterFor job).Sendable ∧ ∃ stdout, dumpFirst job = .ok stdout) ∨
      (¬(Emission.emitterFor job).Sendable ∧
        ∃ fault, job.source.Unwritable job.encoding fault ∧
          dumpFirst job = .error (.encode fault)) := by
  have hrecord := Record.forIndex_of_fits (by decide : Decimal.fits (0 : Nat)) job.source
  have hframe_iff := Record.exists_frame_forIndex_iff job.encoding hrecord
  rw [dumpFirst_of_frame hrecord]
  cases hframe : job.encoding.frame _ with
  | ok frame => exact .inl ⟨hframe_iff.1 ⟨frame, hframe⟩, _, rfl⟩
  | error fault =>
    refine .inr ⟨fun hsend => ?_, fault, Record.unwritable_of_frame hrecord hframe, rfl⟩
    obtain ⟨frame, hok⟩ := hframe_iff.2 hsend
    cases hframe.symm.trans hok

end Dump

/-! The sending. -/

namespace Task

variable {around : Surroundings} {s : Settings} {t : Task} {outcome : DialOutcome}
  {script : List SendOutcome} {watch : Stopwatch}

theorem large_of_rateLine {count : Nat} {bytes : Bytes} {x : Binary64} {fault : QuotientFault}
    (h : Emission.rateLine ⟨count, bytes.length, .float x⟩ = .error fault) :
    2 ^ 960 ≤ count ∨ 2 ^ 960 ≤ bytes.length := by
  by_contra hsmall
  obtain ⟨hcount, hbytes⟩ := not_or.1 hsmall
  obtain ⟨line, hline⟩ := Emission.exists_rateLine (s := ⟨count, bytes.length, .float x⟩) rfl
    (by dsimp only; omega) (by dsimp only; omega)
  rw [hline] at h
  cases h

theorem run_sent (hfits : Decimal.fits t.job.count) {n : Nat} (hcount : t.job.count = n)
    (hsend : 0 < t.job.count → (Emission.emitterFor t.job).Sendable) (script : List SendOutcome) (watch : Stopwatch)
    {r : Emitter.Run}
    (hr : r = (Emission.emitterFor t.job).run t.job.count { outcomes := script } watch) :
    (r.result = .ok ⟨n, r.channel.taken.length, .float watch.elapsed⟩) ∨
      ∃ k fault, r.result = .error (.send k fault) := by
  rw [hcount] at hfits hr hsend
  replace hsend : (Emission.emitterFor t.job).Sendable ∨ n = 0 := by
    by_cases hn : n = 0
    · exact .inr hn
    · exact .inl (hsend (by omega))
  obtain ⟨frames, -, ⟨htaken, hresult⟩ | ⟨k, fault, hresult, -⟩⟩ :=
    (Emission.emitterFor t.job).run_sent rfl hsend (Decimal.fits_natCast_iff.1 hfits).le script
      watch hr
  · rw [htaken]
    exact .inl hresult
  · exact .inr ⟨k, fault, hresult⟩

theorem converted_run (hasks : s.Asks around t) (hfits : Decimal.fits t.job.count)
    (hsend : (∃ own, outcome = .connected own) ∧ 0 < t.job.count →
      (Emission.emitterFor t.job).Sendable) :
    (t.run around outcome script watch).Converted t.job := by
  have hends : Emission.Ends t.job { outcomes := script } watch outcome _ _ :=
    Emission.ends_emit (dialled_of_parsePort hasks.port) none
  obtain ⟨n, -, hcount⟩ := hasks.count
  have hsent (own : Endpoint) (hown : outcome = .connected own) :=
    run_sent hfits hcount (fun hpos => hsend ⟨⟨own, hown⟩, hpos⟩) script watch rfl
  unfold run report Run.Converted
  generalize Emission.emit t.job outcome { outcomes := script } watch = e at *
  obtain ⟨result, dialled, closed, channel, logs⟩ := e
  dsimp only at *
  -- Of the ways in which a job ends only the one without a rate is left that has no code.
  cases hends with
  | refused reason => exact .inl ⟨ExitCode.connection, by decide, rfl⟩
  | uncounted own long =>
    rw [hfits] at long
    cases long
  | failed own _ hrun =>
    obtain hok | ⟨k, fault, hfault⟩ := hsent own rfl
    · cases hrun.symm.trans hok
    · cases hrun.symm.trans hfault
      exact .inl ⟨ExitCode.transfer, by decide, rfl⟩
  | @unrated own stats hrun fault hrate =>
    obtain hok | ⟨k, fault, hfault⟩ := hsent own rfl
    · cases hrun.symm.trans hok
      refine .inr ⟨fault, rfl, ?_⟩
      have hlarge := large_of_rateLine hrate
      rwa [← Int.natAbs_natCast n, ← hcount] at hlarge
    · cases hrun.symm.trans hfault
  | sent own _ hrun => exact .inl ⟨ExitCode.success, by decide, rfl⟩

theorem escaped_run (hasks : s.Asks around t) (hfits : Decimal.fits t.job.count)
    (hsend : ¬(Emission.emitterFor t.job).Sendable) (hpos : 0 < t.job.count) (own : Endpoint)
    (script : List SendOutcome) (watch : Stopwatch) :
    ∃ fault, t.job.source.Unwritable t.job.encoding fault ∧
      (t.run around (.connected own) script watch).Escaped fault := by
  have hends : Emission.Ends t.job { outcomes := script } watch (.connected own) _ _ :=
    Emission.ends_emit (dialled_of_parsePort hasks.port) none
  obtain ⟨n, -, hcount⟩ := hasks.count
  obtain ⟨⟨fault, hfault, hresult⟩, hchannel⟩ :=
    (Emission.emitterFor t.job).run_of_not_sendable rfl hsend (by omega : 0 < n) script watch
  rw [← hcount] at hresult hchannel
  refine ⟨fault, hfault, ?_⟩
  unfold run report
  generalize Emission.emit t.job (.connected own) { outcomes := script } watch = e at *
  obtain ⟨result, dialled, closed, channel, logs⟩ := e
  dsimp only at *
  cases hends with
  | uncounted own long =>
    rw [hfits] at long
    cases long
  | failed own _ hrun =>
    cases hrun.symm.trans hresult
    exact ⟨_, rfl, .send, congrArg Channel.taken hchannel⟩
  | unrated own hrun hrate => cases hrun.symm.trans hresult
  | sent own _ hrun => cases hrun.symm.trans hresult

end Task

/-! The program. -/

section Program

variable {around : Surroundings} {arguments : List Text} {s : Settings} {job : Job}
  {outcome : DialOutcome} {watch : Stopwatch}

theorem run_of_dump {t : Task} (hparse : parse grammar {} arguments = .ok s)
    (htask : s.task around = .ok t) (hdump : s.dump = true) (channel : Channel) :
    run around arguments outcome channel watch =
      { outcome :=
          match dumpFirst t.job with
          | .ok stdout => { ending := .exit ExitCode.success, stdout, console := t.console }
          | .error fault => { ending := .crash fault, console := t.console }
        dialled := []
        channel } := by
  unfold run plan
  rw [hparse]
  dsimp only
  rw [htask]
  dsimp only
  rw [if_pos hdump]
  cases dumpFirst t.job <;> rfl

theorem converted_of_task {t : Task} (hparse : parse grammar {} arguments = .ok s)
    (htask : s.task around = .ok t)
    (hsend : s.Encodes t.job outcome → (Emission.emitterFor t.job).Sendable)
    (script : List SendOutcome) :
    (run around arguments outcome { outcomes := script } watch).Converted t.job := by
  have hasks := Settings.asks_of_task htask
  cases hdump : s.dump with
  | true =>
    rw [run_of_dump hparse htask hdump]
    obtain ⟨-, stdout, hfirst⟩ | ⟨hnot, -⟩ := dumpFirst_cases t.job
    · rw [hfirst]
      exact .inl ⟨ExitCode.success, by decide, rfl⟩
    · exact absurd (hsend (.inl hdump)) hnot
  | false =>
    rw [run_of_task hparse htask hdump]
    exact Task.converted_run hasks (hasks.fits hparse) fun h => hsend (.inr h)

theorem escaped_of_task {t : Task} (hparse : parse grammar {} arguments = .ok s)
    (htask : s.task around = .ok t) (hencodes : s.Encodes t.job outcome)
    (hsend : ¬(Emission.emitterFor t.job).Sendable) (script : List SendOutcome) :
    ∃ fault, t.job.source.Unwritable t.job.encoding fault ∧
      (run around arguments outcome { outcomes := script } watch).Escaped fault := by
  have hasks := Settings.asks_of_task htask
  cases hdump : s.dump with
  | true =>
    rw [run_of_dump hparse htask hdump]
    obtain ⟨hyes, -⟩ | ⟨-, fault, hfault, hfirst⟩ := dumpFirst_cases t.job
    · exact absurd hyes hsend
    · rw [hfirst]
      exact ⟨fault, hfault, _, rfl, .dump, rfl⟩
  | false =>
    obtain ⟨⟨own, rfl⟩, hpos⟩ := hencodes.resolve_left (by simp [hdump])
    rw [run_of_task hparse htask hdump]
    exact Task.escaped_run hasks (hasks.fits hparse) hsend hpos own script watch

/-- An accepted command line has a log level or a blank. With a level, and if no source is encoded
that cannot be written, the run ends with the code for success, for a connection that failed or for
a transfer that failed, unless the rate is beyond double precision. With such a source it ends with
no code and sends nothing. With a blank there is no code either. -/
theorem run_converts {e : Encoding} (hparse : parse grammar {} arguments = .ok s)
    (hencoding : s.base.encoding = .value e)
    (hjob : Job.ofArguments s.host s.port s.count e.name s.source = .ok job)
    (around : Surroundings) (outcome : DialOutcome) (script : List SendOutcome)
    (watch : Stopwatch) :
    let r := run around arguments outcome { outcomes := script } watch
    (∀ level, s.base.level = .value level →
      (s.Encodes job outcome → s.source.Plain ∧ s.source.HasRoom e) → r.Converted job) ∧
    (∀ level, s.base.level = .value level → s.Encodes job outcome →
      ¬(s.source.Plain ∧ s.source.HasRoom e) →
        ∃ fault, s.source.Unwritable e fault ∧ r.Escaped fault) ∧
    (s.base.level = .blank → r.outcome.ending = .crash (.blank .level)) := by
  intro r
  have hchosen := BaseSettings.chosenEncoding_of_value hencoding
  have htask {level : Int} (hlevel : s.base.level = .value level) : s.task around = .ok _ :=
    Settings.task_eq_ok hchosen hjob (BaseSettings.console_of_value hlevel)
  have hasks {level : Int} (hlevel : s.base.level = .value level) :
      job.source = s.source ∧ job.encoding = e := by
    have hasks := Settings.asks_of_task (htask hlevel)
    exact ⟨hasks.source, Given.value.inj (hasks.encoding.symm.trans hencoding)⟩
  refine ⟨fun level hlevel hsend => ?_, fun level hlevel hencodes hsend => ?_, fun hlevel => ?_⟩
  · obtain ⟨hsource, rfl⟩ := hasks hlevel
    rw [← hsource] at hsend
    exact converted_of_task hparse (htask hlevel) hsend script
  · obtain ⟨hsource, rfl⟩ := hasks hlevel
    rw [← hsource] at hsend ⊢
    exact escaped_of_task hparse (htask hlevel) hencodes hsend script
  · have hblank : s.task around = .error (.crash (.blank .level)) := by
      simp only [Settings.task, hchosen, hjob, BaseSettings.console_of_blank hlevel]
    have hplan : plan around arguments = .inl { ending := .crash (.blank .level) } := by
      simp only [plan, hparse, hblank]
    simp only [r, run, hplan]

/-- The source is the byte 0x80, which is no text and comes as a surrogate. -/
def surrogateArguments : List Text :=
  ["127.0.0.1", "9000", "--source", [CodePoint.ofNat 0xDC80]]

def surrogateRun : Run :=
  run ⟨false, ⟨0, 0⟩⟩ surrogateArguments (.connected ⟨"127.0.0.1", 40000⟩) {}
    ⟨Binary64.zero, Binary64.zero⟩

theorem run_converts_surrogate : ∃ u, surrogateRun.Escaped (.surrogate u) := by
  let s : Settings :=
    { host := "127.0.0.1", port := .text "9000", source := .value [CodePoint.ofNat 0xDC80] }
  let job : Job :=
    { target := ⟨"127.0.0.1", .number 9000⟩, source := .value [CodePoint.ofNat 0xDC80] }
  have hparse : parse grammar {} surrogateArguments = .ok s := rfl
  have hjob : Job.ofArguments s.host s.port s.count Encoding.msgpack.name s.source = .ok job := rfl
  have hplain : ¬s.source.Plain := fun h => absurd (Given.plain_value_iff.1 h) (by decide)
  have hencodes : s.Encodes job (.connected ⟨"127.0.0.1", 40000⟩) :=
    .inr ⟨⟨_, rfl⟩, by decide⟩
  obtain ⟨fault, hfault, hescaped⟩ := (run_converts hparse rfl hjob ⟨false, ⟨0, 0⟩⟩
    (.connected ⟨"127.0.0.1", 40000⟩) [] ⟨Binary64.zero, Binary64.zero⟩).2.1 Level.warning rfl
    hencodes (fun h => hplain h.1)
  cases hfault with
  | surrogate mixed u => exact ⟨u, hescaped⟩
  | size plain large => exact absurd plain hplain

/-- The command line is accepted and describes a job, and still no code comes out. -/
theorem no_exit_of_surrogate :
    ∃ s job, parse grammar {} surrogateArguments = .ok s ∧ s.base.encoding = .value .msgpack ∧
      Job.ofArguments s.host s.port s.count Encoding.msgpack.name s.source = .ok job ∧
      ∀ code, surrogateRun.outcome.ending ≠ .exit code := by
  refine ⟨_, _, rfl, rfl, rfl, fun code h => ?_⟩
  cases h

end Program

end RecordStream.Command.Send
