import RecordStream.Command.Send
import RecordStream.Proofs.Command.Settings
import RecordStream.Proofs.Logging.Console
import RecordStream.Proofs.Transfer.Emission

/-!
What the exit code of the sending program tells: how far the program came, and with that what was
dialled, sent and written.
-/

namespace RecordStream.Command.Send

structure Settings.Asks (s : Settings) (around : Surroundings) (t : Task) : Prop where
  host : t.job.target.host = s.host
  port : parsePort s.port = .ok t.job.target.port
  count : ∃ n, parseCount s.count = .ok n ∧ t.job.count = n
  encoding : s.base.encoding = .value t.job.encoding
  source : t.job.source = s.source
  level : s.base.level = .value t.console.level
  handler : t.console.handler = some ⟨0, s.base.color && around.terminal⟩

def Task.Frames (t : Task) (n : Nat) (frames : List Bytes) : Prop :=
  t.job.count = n ∧ (Emission.emitterFor t.job).Frames 0 n frames

def written (k n : Nat) : Text :=
  "(" ++ Decimal.ofNat k ++ " of " ++ Decimal.ofNat n ++ " messages written)"

namespace Run

structure Idle (r : Run) : Prop where
  dialled : r.dialled = []
  taken : r.channel.taken = []
  stdout : r.outcome.stdout = []

structure Dumped (r : Run) (t : Task) : Prop where
  dialled : r.dialled = []
  stdout : ∃ frame, (Emission.emitterFor t.job).frameAt 0 = .ok frame ∧
    r.outcome.stdout = Hexdump.dump frame 0 16 ++ "\n"

structure Sent (r : Run) (t : Task) : Prop where
  dialled : r.dialled = [⟨t.job.target, none⟩]
  taken : ∃ n frames, t.Frames n frames ∧ r.channel.taken = frames.flatten
  silent : Level.warning ≤ t.console.level → r.outcome.stdout = [] ∧ r.outcome.stderr = []

structure Refused (r : Run) (t : Task) (outcome : DialOutcome) : Prop where
  dialled : r.dialled = [⟨t.job.target, none⟩]
  refused : ∃ reason, outcome = .refused reason
  taken : r.channel.taken = []

/-- The bytes sent are a front of the frames but not all of them. The frames that are complete
in it are counted in the log. -/
structure BrokenOff (r : Run) (t : Task) (outcome : DialOutcome) : Prop where
  dialled : r.dialled = [⟨t.job.target, none⟩]
  connected : ∃ own, outcome = .connected own
  taken : ∃ n frames k, t.Frames n frames ∧ r.channel.taken <+: frames.flatten ∧
    r.channel.taken ≠ frames.flatten ∧ k < n ∧ wholeFrames frames r.channel.taken = k ∧
    (t.console.level ≠ Level.critical → written k n <:+: r.outcome.stderr)

end Run

/-- What an exit code tells about a run. -/
def Tells (around : Surroundings) (arguments : List Text) (outcome : DialOutcome) (r : Run) :
    Nat → Prop
  | 0 => ∃ s t, parse grammar {} arguments = .ok s ∧ s.Asks around t ∧
      (s.dump = true → r.Dumped t) ∧ (s.dump = false → r.Sent t)
  | 1 | 2 => r.Idle
  | 3 => ∃ s t, parse grammar {} arguments = .ok s ∧ s.Asks around t ∧ r.Refused t outcome
  | 4 => ∃ s t, parse grammar {} arguments = .ok s ∧ s.Asks around t ∧ r.BrokenOff t outcome
  | _ => False

/-! What the command line leads to. -/

section Plan

variable {around : Surroundings} {arguments : List Text} {s : Settings} {t : Task}

theorem ofName_name (e : Encoding) : Encoding.ofName e.name = .ok e := by
  cases e <;> rfl

theorem Settings.asks_of_task (h : s.task around = .ok t) : s.Asks around t := by
  unfold Settings.task at h
  split at h
  · cases h
  · next encoding hencoding =>
    split at h
    · cases h
    · cases h
    · next job hjob =>
      split at h
      · cases h
      · next console hconsole =>
        cases h
        unfold Job.ofArguments at hjob
        rw [ofName_name] at hjob
        obtain ⟨port, hport, hjob⟩ := exists_of_bind hjob
        obtain ⟨count, hcount, hjob⟩ := exists_of_bind hjob
        cases hjob
        obtain ⟨hlevel, hhandler⟩ := BaseSettings.console_eq_ok_iff.1 hconsole
        exact ⟨rfl, hport, ⟨count, hcount, rfl⟩, BaseSettings.chosenEncoding_eq_ok_iff.1 hencoding,
          rfl, hlevel, hhandler⟩

theorem dumpFirst_eq_ok {job : Job} {stdout : Text} (h : dumpFirst job = .ok stdout) :
    ∃ frame, (Emission.emitterFor job).frameAt 0 = .ok frame ∧
      stdout = Hexdump.dump frame 0 16 ++ "\n" := by
  unfold dumpFirst at h
  split at h
  · cases h
  · next record hrecord =>
    rw [Codec.pack_new] at h
    split at h
    · cases h
    · next frame hframe =>
      cases h
      exact ⟨frame, Emitter.frameAt_eq_ok_iff.2 ⟨record, hrecord, hframe⟩, rfl⟩

theorem exit_of_plan_eq_inl {o : Outcome Crash} {code : Nat} (h : plan around arguments = .inl o)
    (hexit : o.ending = .exit code) :
    ((code = 1 ∨ code = 2) ∧ o.stdout = []) ∨
      code = 0 ∧ ∃ s t, parse grammar {} arguments = .ok s ∧ s.Asks around t ∧ s.dump = true ∧
        dumpFirst t.job = .ok o.stdout := by
  unfold plan at h
  split at h
  · cases h
    cases hexit
  · cases h
    cases hexit
    exact .inl ⟨.inl rfl, rfl⟩
  · next s hs =>
    split at h
    · cases h
      cases hexit
      exact .inl ⟨.inr rfl, rfl⟩
    · cases h
      cases hexit
    · next t ht =>
      split_ifs at h with hdump
      split at h
      · cases h
        cases hexit
      · next stdout hstdout =>
        cases h
        cases hexit
        exact .inr ⟨rfl, s, t, hs, Settings.asks_of_task ht, hdump, hstdout⟩

theorem exists_of_plan_eq_inr (h : plan around arguments = .inr t) :
    ∃ s, parse grammar {} arguments = .ok s ∧ s.Asks around t ∧ s.dump = false := by
  unfold plan at h
  split at h
  · cases h
  · cases h
  · next s hs =>
    split at h
    · cases h
    · cases h
    · next t' ht =>
      split_ifs at h with hdump
      · split at h <;> cases h
      · cases h
        exact ⟨s, hs, Settings.asks_of_task ht, eq_false_of_ne_true hdump⟩

theorem named_of_parse (h : parse grammar {} arguments = .ok s) : s.base.Named := by
  have hkeeps : grammar.Keeps fun s => s.base.Named := by
    refine ⟨?_, ?_⟩
    · simp only [grammar, List.cons_append, List.nil_append, List.forall_mem_cons]
      refine ⟨trivial, ?_, fun s hs => hs, keeps_baseRules fun s b => rfl⟩
      intro s given s' hs h
      cases h
      exact hs
    · simp only [grammar, List.forall_mem_cons]
      refine ⟨fun s given hs => hs, fun s given hs => hs, ?_, by simp⟩
      intro s given hs
      cases given <;> exact hs
  exact hkeeps.parse BaseSettings.named_default h

theorem Settings.Asks.level_le_error (hparse : parse grammar {} arguments = .ok s)
    (hasks : s.Asks around t) (hlevel : t.console.level ≠ Level.critical) :
    t.console.level ≤ Level.error := by
  have hmem := named_of_parse hparse _ hasks.level
  simp only [levels, List.mem_cons, List.not_mem_nil, or_false, hlevel] at hmem
  rcases hmem with h | h | h | h <;> rw [h] <;> decide

end Plan

/-! What a task leads to. -/

namespace Task

variable {around : Surroundings} {t : Task} {outcome : DialOutcome} {script : List SendOutcome}
  {watch : Stopwatch}

def run (t : Task) (around : Surroundings) (outcome : DialOutcome) (script : List SendOutcome)
    (watch : Stopwatch) : Run :=
  let e := Emission.emit t.job outcome { outcomes := script } watch
  { outcome := t.report around e, dialled := e.dialled, channel := e.channel }

theorem taken_of_run_eq_ok (hfits : Decimal.fits t.job.count) {stats : EmitStats}
    (hrun : ((Emission.emitterFor t.job).run t.job.count { outcomes := script } watch).result =
      .ok stats) :
    ∃ n frames, t.Frames n frames ∧
      ((Emission.emitterFor t.job).run t.job.count { outcomes := script } watch).channel.taken =
        frames.flatten := by
  have hway := Emitter.wayOut_run (e := Emission.emitterFor t.job) rfl hfits script watch rfl
  rw [hrun] at hway
  cases hway with
  | sent natural all taken => exact ⟨_, _, ⟨natural, all⟩, taken⟩

theorem torn_of_run_eq_error (hfits : Decimal.fits t.job.count) {k : Nat} {fault : SendFault}
    (hrun : ((Emission.emitterFor t.job).run t.job.count { outcomes := script } watch).result =
      .error (.send k fault)) :
    ∃ n frames, t.Frames n frames ∧ Torn frames k
      ((Emission.emitterFor t.job).run t.job.count { outcomes := script } watch).channel.taken := by
  have hway := Emitter.wayOut_run (e := Emission.emitterFor t.job) rfl hfits script watch rfl
  rw [hrun] at hway
  cases hway with
  | broken natural all torn => exact ⟨_, _, ⟨natural, all⟩, torn⟩

theorem written_suffix (message : Text) (k n : Nat) :
    written k n <:+ message ++ " (" ++ Decimal.ofNat k ++ " of " ++ Decimal.ofInt n
      ++ " messages written)" := by
  refine ⟨message ++ " ", ?_⟩
  have hopen : (" (" : Text) = " " ++ "(" := rfl
  have hcount : Decimal.ofInt n = Decimal.ofNat n := if_neg (by omega)
  rw [written, hopen, hcount]
  simp only [List.append_assoc]

theorem written_infix {s : Settings} (hasks : s.Asks around t)
    (hlevel : t.console.level ≤ Level.error) {n : Nat} (hn : t.job.count = n) (k : Nat)
    (fault : SendFault) (logs : List LogLine) :
    written k n <:+: t.console.writeAll around.moment
      (logs ++ (endingOf t.job (.error (.run (.send k fault)))).2) := by
  have hlast := written_suffix fault.message k n
  rw [← hn] at hlast
  have hhandler : t.console.handler.isSome := Option.isSome_of_eq_some hasks.handler
  have hpos : 0 < Level.error := by decide
  exact hlast.isInfix.trans (Console.infix_writeAll (l := errorLine _)
    (List.mem_append_right _ List.mem_cons_self) hpos hlevel hhandler)

theorem writeAll_eq_nil_of_warning {logs : List LogLine} (hlogs : ∀ l ∈ logs, l.level ≤ Level.info)
    (hlevel : Level.warning ≤ t.console.level) (moment : Moment) :
    t.console.writeAll moment logs = [] := by
  have hinfo : Level.info < Level.warning := by decide
  exact Console.writeAll_eq_nil fun l hl =>
    Int.lt_of_le_of_lt (hlogs l hl) (Int.lt_of_lt_of_le hinfo hlevel)

theorem exit_run {s : Settings} (hasks : s.Asks around t)
    (hlevel : t.console.level ≠ Level.critical → t.console.level ≤ Level.error) {code : Nat}
    (hexit : (t.run around outcome script watch).outcome.ending = .exit code) :
    (code = 0 ∧ (t.run around outcome script watch).Sent t) ∨
      (code = 3 ∧ (t.run around outcome script watch).Refused t outcome) ∨
        code = 4 ∧ (t.run around outcome script watch).BrokenOff t outcome := by
  have hport := dialled_of_parsePort hasks.port
  have hdialled : (t.run around outcome script watch).dialled = [⟨t.job.target, none⟩] :=
    Emission.emit_dialled hport
  have hends : Emission.Ends t.job { outcomes := script } watch outcome _ _ :=
    Emission.ends_emit hport none
  have hlogs : ∀ l ∈ (Emission.emit t.job outcome { outcomes := script } watch).logs, _ :=
    Emission.level_of_mem_emit
  unfold run report at hexit hdialled ⊢
  generalize Emission.emit t.job outcome { outcomes := script } watch = e at *
  obtain ⟨result, dialled, closed, channel, logs⟩ := e
  dsimp only at *
  cases hends with
  | refused reason =>
    cases hexit
    exact .inr (.inl ⟨rfl, hdialled, ⟨reason, rfl⟩, rfl⟩)
  | uncounted own long => cases hexit
  | @failed own hfits fault hrun =>
    -- Only a fault of the sending has a code.
    cases fault with
    | send k fault =>
      cases hexit
      obtain ⟨n, frames, hframes, htorn⟩ := torn_of_run_eq_error hfits hrun
      exact .inr (.inr ⟨rfl, hdialled, ⟨own, rfl⟩, n, frames, k, hframes, htorn.isPrefix,
        htorn.ne_flatten, hframes.2.length ▸ htorn.lt, htorn.wholeFrames_eq,
        fun hcritical => written_infix hasks (hlevel hcritical) hframes.1 k fault logs⟩)
    | _ => cases hexit
  | unrated own hrun hrate => cases hexit
  | sent own hfits hrun =>
    cases hexit
    refine .inl ⟨rfl, hdialled, taken_of_run_eq_ok hfits hrun, fun hwarning => ⟨rfl, ?_⟩⟩
    simp only [endingOf, List.append_nil]
    exact writeAll_eq_nil_of_warning hlogs hwarning around.moment

end Task

section Accepted

variable {around : Surroundings} {arguments : List Text} {s : Settings} {encoding : Encoding}
  {job : Job} {console : Console} {outcome : DialOutcome} {watch : Stopwatch}

theorem Settings.task_eq_ok (hencoding : s.base.chosenEncoding = .ok encoding)
    (hjob : Job.ofArguments s.host s.port s.count encoding.name s.source = .ok job)
    (hconsole : s.base.console around = .ok console) : s.task around = .ok ⟨job, console⟩ := by
  simp only [Settings.task, hencoding, hjob, hconsole]

theorem run_of_task {t : Task} (hparse : parse grammar {} arguments = .ok s)
    (htask : s.task around = .ok t) (hdump : s.dump = false) (script : List SendOutcome) :
    run around arguments outcome { outcomes := script } watch =
      t.run around outcome script watch := by
  have hplan : plan around arguments = .inr t := by
    simp only [plan, hparse, htask, hdump, Bool.false_eq_true, if_false]
  simp only [run, hplan]
  rfl

end Accepted

/-- What an exit code tells is true, and there are no codes but those that tell something. -/
theorem tells_run (around : Surroundings) (arguments : List Text) (outcome : DialOutcome)
    (script : List SendOutcome) (watch : Stopwatch) {code : Nat}
    (hexit : (run around arguments outcome { outcomes := script } watch).outcome.ending =
      .exit code) :
    Tells around arguments outcome
      (run around arguments outcome { outcomes := script } watch) code := by
  unfold run at hexit ⊢
  cases hplan : plan around arguments with
  | inl o =>
    simp only [hplan] at hexit ⊢
    obtain ⟨hcode, hstdout⟩ | ⟨rfl, s, t, hs, hasks, hdump, hfirst⟩ :=
      exit_of_plan_eq_inl hplan hexit
    · have hidle : Run.Idle ⟨o, [], { outcomes := script }⟩ := ⟨rfl, rfl, hstdout⟩
      rcases hcode with rfl | rfl <;> exact hidle
    · refine ⟨s, t, hs, hasks, fun _ => ⟨rfl, dumpFirst_eq_ok hfirst⟩, fun hno => ?_⟩
      rw [hdump] at hno
      cases hno
  | inr t =>
    simp only [hplan] at hexit ⊢
    obtain ⟨s, hs, hasks, hdump⟩ := exists_of_plan_eq_inr hplan
    obtain ⟨rfl, hsent⟩ | ⟨rfl, hrefused⟩ | ⟨rfl, hbroken⟩ :=
      Task.exit_run hasks (hasks.level_le_error hs) hexit
    · refine ⟨s, t, hs, hasks, fun hyes => ?_, fun _ => hsent⟩
      rw [hdump] at hyes
      cases hyes
    · exact ⟨s, t, hs, hasks, hrefused⟩
    · exact ⟨s, t, hs, hasks, hbroken⟩

def resetArguments : List Text :=
  ["localhost", "9000", "2", "--encoding=json", "--source", "ab"]

def resetRun : Run :=
  run ⟨false, ⟨0, 0⟩⟩ resetArguments (.connected ⟨"127.0.0.1", 40000⟩)
    { outcomes := Emitter.resetScript } ⟨Binary64.zero, Binary64.zero⟩

theorem tells_run_reset :
    resetRun.outcome.ending = .exit ExitCode.transfer ∧
      Tells ⟨false, ⟨0, 0⟩⟩ resetArguments (.connected ⟨"127.0.0.1", 40000⟩) resetRun 4 :=
  ⟨rfl, tells_run _ _ _ _ _ rfl⟩

end RecordStream.Command.Send
