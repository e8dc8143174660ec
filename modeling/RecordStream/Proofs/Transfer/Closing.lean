import RecordStream.Proofs.Transfer.Completion

/-!
A connection that was opened is closed once, in whichever way the run on it ends. What the run
leaves is what the job leaves, and two lines sum up a run that went through to the end.
-/

namespace RecordStream

def LogLine.isSummary (l : LogLine) : Bool :=
  (Text.ofString "Sent ").isPrefixOf l.message || (Text.ofString "Rate: ").isPrefixOf l.message

namespace Emission

/-- The dialling failed for this reason. There was no connection to use, nor one to close. -/
structure Unconnected (e : Emission) (target : Target) (reason : Text) (script : List SendOutcome) :
    Prop where
  result : e.result = .error (.connect (.refused target reason))
  channel : e.channel = { outcomes := script }
  closed : e.closed = 0

/-- The connection was used by the run alone, and closed behind it. -/
structure Closed (e : Emission) (run : Emitter.Run) : Prop where
  result : e.result = run.result.mapError .run
  channel : e.channel = run.channel
  closed : e.closed = 1

structure SumsUp (e : Emission) (watch : Stopwatch) : Prop where
  ok : ∀ stats, e.result = .ok stats → ∃ line, rateLine stats = .ok line ∧
    e.logs.filter LogLine.isSummary = [sentLine stats watch, line]
  error : ∀ fault, e.result = .error fault → e.logs.filter LogLine.isSummary = []

section Lines

variable {job : Job} {c : Connecting} {result : Except RunFault EmitStats} {channel : Channel}
  {watch : Stopwatch} {stats : EmitStats} {line : LogLine}

theorem isSummary_sendingLine : (sendingLine job).isSummary = false := rfl

theorem isSummary_sentLine : (sentLine stats watch).isSummary = true := rfl

theorem isSummary_rateLine (h : rateLine stats = .ok line) : line.isSummary = true := by
  obtain ⟨rest, rfl⟩ := exists_of_rateLine h
  rfl

theorem filter_logs_connect (target : Target) (outcome : DialOutcome) (timeout : Option Number) :
    (connect target outcome timeout).logs.filter LogLine.isSummary = [] := by
  unfold connect
  cases target.port.dialled with
  | error limit => rfl
  | ok port => cases outcome <;> rfl

theorem closed_conclude {run : Emitter.Run}
    (hrate : ∀ stats, run.result = .ok stats → ∃ line, rateLine stats = .ok line) :
    (conclude job c run.result run.channel watch).Closed run := by
  unfold conclude
  cases h : run.result with
  | error fault => exact ⟨by rw [h]; rfl, rfl, rfl⟩
  | ok stats =>
    obtain ⟨line, hline⟩ := hrate stats h
    simp only [hline]
    exact ⟨by rw [h]; rfl, rfl, rfl⟩

theorem sumsUp_conclude (hlogs : c.logs.filter LogLine.isSummary = [])
    (hrate : ∀ stats, result = .ok stats → ∃ line, rateLine stats = .ok line) :
    (conclude job c result channel watch).SumsUp watch := by
  have hbegun (lines : List LogLine) :
      (c.logs ++ sendingLine job :: lines).filter LogLine.isSummary =
        lines.filter LogLine.isSummary := by
    rw [List.filter_append, hlogs, List.nil_append, List.filter_cons_of_neg]
    simp [isSummary_sendingLine]
  unfold conclude
  cases result with
  | error fault =>
    constructor
    · intro stats h
      cases h
    · intro fault _
      rw [hbegun, List.filter_nil]
  | ok stats =>
    obtain ⟨line, hline⟩ := hrate stats rfl
    simp only [hline]
    constructor
    · intro stats h
      cases h
      refine ⟨line, hline, ?_⟩
      rw [hbegun, List.filter_eq_self]
      simp [isSummary_sentLine, isSummary_rateLine hline]
    · intro fault h
      cases h

end Lines

section Closing

variable {encoding : Encoding} {source : Text} {count : Int} {script : List SendOutcome}
  {watch : Stopwatch}

/-- One connection is dialled, with the timeout that is given. If it cannot be opened the fault says
which one and why, and there is nothing to close. If it is opened the run on it ends in one of its
ways out (a source as short as this one is never too long), and in each of them the connection is
closed once and the fault or the statistics are those of the run. The two lines of the summary are
told exactly if there are statistics. -/
theorem emit_closes {given : Value} {port : Port} (hport : parsePort given = .ok port)
    (hcount : count.natAbs < 2 ^ 63) (hsource : source.length < 2 ^ 30) (host : Text)
    (encoding : Encoding) (outcome : DialOutcome) (script : List SendOutcome) (watch : Stopwatch)
    (timeout : Option Number) :
    let target : Target := ⟨host, port⟩
    let job : Job := { target, count, encoding, source := .value source }
    let emitter := Emitter.new encoding source
    let run := emitter.run count { outcomes := script } watch
    let e := emit job outcome { outcomes := script } watch timeout
    e.dialled = [⟨target, timeout⟩] ∧
    (∀ reason, outcome = .refused reason → e.Unconnected target reason script) ∧
    (∀ own, outcome = .connected own →
      e.Closed run ∧ emitter.WayOut count script watch run.result run.channel) ∧
    e.SumsUp watch := by
  intro target job emitter run e
  have hdialled : target.port.dialled = .ok target.port := dialled_of_parsePort hport
  have hfits := Decimal.fits_of_natAbs_lt hcount
  have hway := Emitter.wayOut_run (e := emitter) rfl hfits script watch rfl
  -- Without a rate the job would fail behind a run that went through.
  have hrate (stats : EmitStats) (h : run.result = .ok stats) :
      ∃ line, rateLine stats = .ok line :=
    exists_rateLine_of_sent hcount hsource (h ▸ hway)
  have hlogs := filter_logs_connect target outcome timeout
  refine ⟨emit_dialled hdialled, ?_⟩
  cases outcome with
  | refused reason =>
    have he : e = _ := emit_refused hdialled reason
    rw [he]
    refine ⟨?_, ?_, ⟨?_, fun fault _ => rfl⟩⟩
    · rintro _ ⟨⟩
      exact ⟨rfl, rfl, rfl⟩
    · intro own h
      cases h
    · intro stats h
      cases h
  | connected own =>
    have he : e = _ := emit_connected hdialled hfits own
    rw [he]
    refine ⟨?_, fun _ _ => ⟨closed_conclude hrate, hway⟩, sumsUp_conclude hlogs hrate⟩
    intro reason h
    cases h

theorem emit_closes_reset :
    let job : Job :=
      { target := ⟨"h", .number 80⟩, count := 2, encoding := .json, source := .value "ab" }
    let e := emit job (.connected ⟨"h", 4000⟩) { outcomes := Emitter.resetScript }
      ⟨Binary64.zero, Binary64.zero⟩ (some (.int 5))
    parsePort (.text "0080") = .ok (.number 80) ∧
      e.dialled = [⟨⟨"h", .number 80⟩, some (.int 5)⟩] ∧ e.closed = 1 ∧
      (∃ fault, e.result = .error (.run (.send 1 fault))) ∧
      e.logs.filter LogLine.isSummary = [] := by
  intro job e
  have hport : parsePort (.text "0080") = .ok (.number 80) := rfl
  have hcount : (2 : Int).natAbs < 2 ^ 63 := by decide
  have hsource : (Text.ofString "ab").length < 2 ^ 30 := by decide
  obtain ⟨hdialled, -, hconnected, hsums⟩ := emit_closes hport hcount hsource "h" .json
    (.connected ⟨"h", 4000⟩) Emitter.resetScript ⟨Binary64.zero, Binary64.zero⟩ (some (.int 5))
  obtain ⟨hclosed, -⟩ := hconnected _ rfl
  obtain ⟨fault, hfault⟩ : ∃ fault, Emitter.resetRun.result = .error (.send 1 fault) := ⟨_, rfl⟩
  have hresult : e.result = .error (.run (.send 1 fault)) :=
    hclosed.result.trans (congrArg (Except.mapError EmissionFault.run) hfault)
  exact ⟨hport, hdialled, hclosed.closed, ⟨fault, hresult⟩, hsums.error _ hresult⟩

end Closing

end Emission

end RecordStream
