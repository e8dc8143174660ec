import RecordStream.Proofs.Transfer.Ports
import RecordStream.Proofs.Transfer.Reporting
import RecordStream.Transfer.Emission

/-! A job carried out: what its result says about the dialling, the channel and the log. -/

namespace RecordStream

namespace Emitter

variable {e : Emitter}

/-- The ways out of a run on a channel with this script, and the channel that each leaves. -/
inductive WayOut (e : Emitter) (count : Int) (script : List SendOutcome) (watch : Stopwatch) :
    Except RunFault EmitStats → Channel → Prop
  | negative (neg : count < 0) :
    WayOut e count script watch (.error (.negativeCount count)) { outcomes := script }
  | surrogate (mixed : ¬e.source.Plain) (pos : 0 < count) (u : Unencodable) :
    WayOut e count script watch (.error (.encode (.surrogate u))) { outcomes := script }
  | oversized (large : ¬e.source.HasRoom e.codec.encoding) (pos : 0 < count) :
    WayOut e count script watch (.error (.encode .textSize)) { outcomes := script }
  | broken {n k : Nat} {frames : List Bytes} {channel : Channel} (natural : count = n)
    (all : e.Frames 0 n frames) (torn : Torn frames k channel.taken) (fault : SendFault) :
    WayOut e count script watch (.error (.send k fault)) channel
  | sent {n : Nat} {frames : List Bytes} {channel : Channel} (natural : count = n)
    (all : e.Frames 0 n frames) (taken : channel.taken = frames.flatten) :
    WayOut e count script watch
      (.ok { messages := n, bytesSent := frames.flatten.length, elapsed := .float watch.elapsed })
      channel

theorem wayOut_run (hnew : e.codec.buffer = []) {count : Int} (hfits : Decimal.fits count)
    (script : List SendOutcome) (watch : Stopwatch) {run : Run}
    (hrun : run = e.run count { outcomes := script } watch) :
    e.WayOut count script watch run.result run.channel := by
  by_cases hneg : count < 0
  · rw [hrun, Emitter.run, if_pos hneg, if_pos hfits]
    exact .negative hneg
  · obtain ⟨n, rfl⟩ := Int.eq_ofNat_of_zero_le (Int.not_lt.1 hneg)
    -- What cannot be written is met in the first frame, so a run without frames does not meet it.
    by_cases hsend : e.Sendable ∨ n = 0
    · have hn := (Decimal.fits_natCast_iff.1 hfits).le
      obtain ⟨frames, hframes, ⟨htaken, hresult⟩ | ⟨k, fault, hresult, htorn⟩⟩ :=
        e.run_sent hnew hsend hn script watch hrun
      · rw [hresult]
        exact .sent rfl hframes htaken
      · rw [hresult]
        exact .broken rfl hframes htorn fault
    · obtain ⟨hunsent, hpos⟩ := not_or.1 hsend
      obtain ⟨⟨fault, hfault, hresult⟩, hchannel⟩ :=
        e.run_of_not_sendable hnew hunsent (Nat.pos_of_ne_zero hpos) script watch
      rw [hrun, hresult, hchannel]
      cases hfault with
      | surrogate mixed u => exact .surrogate mixed (by omega) u
      | size plain large => exact .oversized large (by omega)

end Emitter

namespace Emission

variable {job : Job} {outcome : DialOutcome} {channel : Channel} {watch : Stopwatch}
  {timeout : Option Number}

inductive Ends (job : Job) (channel : Channel) (watch : Stopwatch) :
    DialOutcome → Except EmissionFault EmitStats → Channel → Prop
  | refused (reason : Text) :
    Ends job channel watch (.refused reason) (.error (.connect (.refused job.target reason))) channel
  | uncounted (own : Endpoint) (long : Decimal.fits job.count = false) :
    Ends job channel watch (.connected own) (.error (.digits .writing)) channel
  | failed (own : Endpoint) (fits : Decimal.fits job.count) {fault : RunFault}
    (run : ((emitterFor job).run job.count channel watch).result = .error fault) :
    Ends job channel watch (.connected own) (.error (.run fault))
      ((emitterFor job).run job.count channel watch).channel
  | unrated (own : Endpoint) {stats : EmitStats}
    (run : ((emitterFor job).run job.count channel watch).result = .ok stats)
    {fault : QuotientFault} (rate : rateLine stats = .error fault) :
    Ends job channel watch (.connected own) (.error (.rate fault))
      ((emitterFor job).run job.count channel watch).channel
  | sent (own : Endpoint) (fits : Decimal.fits job.count) {stats : EmitStats}
    (run : ((emitterFor job).run job.count channel watch).result = .ok stats) :
    Ends job channel watch (.connected own) (.ok stats)
      ((emitterFor job).run job.count channel watch).channel

theorem conclude_dialled (job : Job) (c : Connecting) (result : Except RunFault EmitStats)
    (channel : Channel) (watch : Stopwatch) :
    (conclude job c result channel watch).dialled = c.dialled := by
  unfold conclude
  cases result with
  | error => rfl
  | ok stats =>
    dsimp only
    cases rateLine stats <;> rfl

theorem emit_refused (h : job.target.port.dialled = .ok job.target.port) (reason : Text) :
    emit job (.refused reason) channel watch timeout =
      { result := .error (.connect (.refused job.target reason))
        dialled := [⟨job.target, timeout⟩]
        closed := 0
        channel
        logs := [] } := by
  simp only [emit, connect, h]

theorem emit_connected (h : job.target.port.dialled = .ok job.target.port)
    (hfits : Decimal.fits job.count) (own : Endpoint) :
    let run := (emitterFor job).run job.count channel watch
    emit job (.connected own) channel watch timeout =
      conclude job (connect job.target (.connected own) timeout) run.result run.channel watch := by
  simp only [emit, connect, h]
  rw [if_pos hfits]

theorem emit_dialled (h : job.target.port.dialled = .ok job.target.port) :
    (emit job outcome channel watch timeout).dialled = [⟨job.target, timeout⟩] := by
  unfold emit connect
  rw [h]
  cases outcome with
  | refused reason => rfl
  | connected own =>
    dsimp only
    split_ifs
    · exact conclude_dialled _ _ _ _ _
    · rfl

theorem ends_emit (h : job.target.port.dialled = .ok job.target.port) (timeout : Option Number) :
    Ends job channel watch outcome (emit job outcome channel watch timeout).result
      (emit job outcome channel watch timeout).channel := by
  unfold emit connect
  rw [h]
  cases outcome with
  | refused reason => exact .refused reason
  | connected own =>
    dsimp only
    split_ifs with hfits
    · unfold conclude
      cases hrun : ((emitterFor job).run job.count channel watch).result with
      | error fault => exact .failed own hfits hrun
      | ok stats =>
        dsimp only
        cases hrate : rateLine stats with
        | error fault => exact .unrated own hrun hrate
        | ok line => exact .sent own hfits hrun
    · exact .uncounted own (eq_false_of_ne_true hfits)

theorem exists_of_rateLine {stats : EmitStats} {line : LogLine} (h : rateLine stats = .ok line) :
    ∃ rest, line = log Level.info ("Rate: " ++ rest) := by
  obtain ⟨rate, -, h⟩ := exists_of_bind h
  obtain ⟨throughput, -, h⟩ := exists_of_bind h
  cases h
  simp only [List.append_assoc]
  exact ⟨_, rfl⟩

theorem level_of_mem_conclude {c : Connecting} {result : Except RunFault EmitStats}
    (hc : ∀ l ∈ c.logs, l.level ≤ Level.info) :
    ∀ l ∈ (conclude job c result channel watch).logs, l.level ≤ Level.info := by
  have hsending : (sendingLine job).level ≤ Level.info := Int.le_refl _
  have hsent (stats : EmitStats) : (sentLine stats watch).level ≤ Level.info := Int.le_refl _
  unfold conclude
  cases result with
  | error fault => simpa [or_imp, forall_and, hsending] using hc
  | ok stats =>
    dsimp only
    cases hline : rateLine stats with
    | error fault => simpa [or_imp, forall_and, hsending, hsent] using hc
    | ok line =>
      obtain ⟨rest, rfl⟩ := exists_of_rateLine hline
      have hrate : (log Level.info ("Rate: " ++ rest)).level ≤ Level.info := Int.le_refl _
      simpa [or_imp, forall_and, hsending, hsent, hrate] using hc

theorem level_of_mem_emit :
    ∀ l ∈ (emit job outcome channel watch timeout).logs, l.level ≤ Level.info := by
  have hconnect : ∀ l ∈ (connect job.target outcome timeout).logs, l.level ≤ Level.info := by
    unfold connect
    cases job.target.port.dialled with
    | error limit => simp
    | ok port =>
      cases outcome with
      | refused reason => simp
      | connected own => simp [Level.debug, Level.info]
  unfold emit
  dsimp only
  split
  · exact hconnect
  · split_ifs
    · exact level_of_mem_conclude hconnect
    · exact hconnect

end Emission

end RecordStream
