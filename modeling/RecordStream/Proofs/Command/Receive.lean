import RecordStream.Command.Receive
import RecordStream.Proofs.Command.Settings
import RecordStream.Proofs.Transfer.Arrival

/-!
What the exit code and the output of the receiving program tell. Of several faults of one stream a
malformed frame comes first, then the failure of the stream, then the bytes left over. Where an
encoding or a log level is a blank, or what is given is no address, the program tells nothing: it
crashes.
-/

namespace RecordStream.Command.Receive

def Visit.arrival (visit : Visit) : Arrival := Arrival.ofSegments visit.segments

def recordCount (objects : List Value) : Nat := objects.countP (·.hasKey "message")

def answerTo (e : Encoding) (expected : Option (Given Int)) (a : Arrival) : Nat × Text :=
  match e.decodeAll a.bytes, a.ending with
  | .error (.malformed ..), _ => (ExitCode.badArgument, [])
  | _, .failed _ => (ExitCode.transfer, [])
  | .error _, .closed => (ExitCode.badArgument, [])
  | .ok objects, .closed =>
    let n := recordCount objects
    (if expected = none ∨ expected = some (.value n) then ExitCode.success else ExitCode.usage,
      Decimal.ofNat n ++ "\n")

/-- The exit code and the output that are due, also for what is no address. -/
def answer (e : Encoding) (expected : Option (Given Int)) (visit : Visit) : Nat × Text :=
  match visit.listening, visit.accepted with
  | .unusable _, _ | .refused _, _ => (ExitCode.connection, [])
  | .listening _, .error _ => (ExitCode.transfer, [])
  | .listening _, .ok _ => answerTo e expected visit.arrival

/-- All objects of the bytes, up to a malformed frame. -/
def objects (e : Encoding) (bytes : Bytes) : List Value :=
  ((Decoder.new e.framing).feed bytes).drain.objects

theorem records_statsOf {s : Sink} (hrequire : s.requireMessage = true) (objects : List Value)
    (bytesReceived : Nat) (watch : Stopwatch) :
    (s.statsOf objects bytesReceived watch).records = recordCount objects := by
  have haccepts : s.accepts = (·.hasKey "message") := by
    funext v
    simp [Sink.accepts, hrequire]
  rw [Sink.statsOf, recordCount, haccepts]

theorem meets_iff {n : Nat} {expected : Option (Given Int)} :
    meets n expected ↔ expected = none ∨ expected = some (.value n) := by
  unfold meets
  split
  · simp
  · simp [eq_comm]
  · simp

theorem endingOf_ok {e : Encoding} (expected : Option (Given Int)) (n : Nat) (stats : SinkStats)
    (hstats : stats.records = n) :
    ∃ lines, endingOf (e := e) expected (.ok stats) =
      (.exit (if expected = none ∨ expected = some (.value n) then ExitCode.success
        else ExitCode.usage), Decimal.ofNat n ++ "\n", lines) := by
  have hshown : Decimal.ofInt n = Decimal.ofNat n := if_neg (by omega)
  unfold endingOf
  simp only [hstats, hshown, meets_iff]
  split_ifs
  · exact ⟨_, rfl⟩
  · exact ⟨_, rfl⟩

theorem endingOf_conclude {s : Sink} (hrequire : s.requireMessage = true) {a : Arrival}
    (hdepth : ∀ v ∈ objects s.encoding a.bytes, v.depth ≤ 300) (expected : Option (Given Int))
    (watch : Stopwatch) :
    ∃ lines, endingOf expected (s.conclude (s.reading a.bytes) a watch).result =
      (.exit (answerTo s.encoding expected a).1, (answerTo s.encoding expected a).2, lines) := by
  have hhandled : (s.reading a.bytes).objects.all s.canHandle :=
    List.all_eq_true.2 fun v hv => Sink.canHandle_of_depth (hdepth v hv)
  rw [s.result_conclude a watch hhandled]
  unfold answerTo
  cases s.encoding.decodeAll a.bytes with
  | error fault => cases fault <;> cases a.ending <;> exact ⟨_, rfl⟩
  | ok objects =>
    cases a.ending with
    | failed reason => exact ⟨_, rfl⟩
    | closed =>
      exact endingOf_ok expected (recordCount objects) _ (records_statsOf hrequire objects _ watch)

theorem serve_spec (around : Surroundings) (t : Task) (visit : Visit)
    (husable : ∀ fault, visit.listening ≠ .unusable fault)
    (hdepth : ∀ v ∈ objects t.encoding visit.arrival.bytes, v.depth ≤ 300) :
    (serve around t visit).outcome.ending = .exit (answer t.encoding t.expected visit).1 ∧
      (serve around t visit).outcome.stdout = (answer t.encoding t.expected visit).2 := by
  let s : Sink := { encoding := t.encoding }
  have hbuffer : 1 ≤ s.bufferSize := (by decide : 1 ≤ 65536)
  have hserve := congrArg Sink.Consumption.result (s.consume_eq hbuffer visit.segments visit.watch)
  obtain ⟨lines, hending⟩ := endingOf_conclude (s := s) rfl hdepth t.expected visit.watch
  unfold serve answer
  cases hlistening : visit.listening with
  | unusable fault => exact absurd hlistening (husable fault)
  | refused reason => exact ⟨rfl, rfl⟩
  | listening port =>
    cases visit.accepted with
    | error reason => exact ⟨rfl, rfl⟩
    | ok peer =>
      change (endingOf t.expected (s.consume visit.segments visit.watch).result).1 = _ ∧
        (endingOf t.expected (s.consume visit.segments visit.watch).result).2.1 = _
      rw [hserve]
      have harrival : Arrival.ofSegments visit.segments = visit.arrival := rfl
      rw [harrival, hending]
      exact ⟨rfl, rfl⟩

theorem run_congr (around : Surroundings) (arguments : List Text) (visit : Visit)
    {segments : List Segment} (harrival : Arrival.ofSegments segments = visit.arrival) :
    run around arguments { visit with segments } = run around arguments visit := by
  have hconsume (e : Encoding) : ({ encoding := e } : Sink).consume segments visit.watch =
      ({ encoding := e } : Sink).consume visit.segments visit.watch := by
    have hbuffer : 1 ≤ ({ encoding := e } : Sink).bufferSize := (by decide : 1 ≤ 65536)
    rw [Sink.consume_eq _ hbuffer, Sink.consume_eq _ hbuffer, harrival]
    rfl
  unfold run serve Sink.serveNext Sink.serveOne
  simp only [hconsume]

theorem plan_of_parse (around : Surroundings) {arguments : List Text} {s : Settings}
    (hparse : parse grammar {} arguments = .ok s) {e : Encoding} {level : Int}
    (hencoding : s.base.encoding = .value e) (hlevel : s.base.level = .value level) :
    ∃ t, plan around arguments = .inr t ∧ t.encoding = e ∧ t.expected = s.expected := by
  unfold plan
  rw [hparse]
  dsimp only
  rw [BaseSettings.console_of_value hlevel, BaseSettings.chosenEncoding_of_value hencoding]
  exact ⟨_, rfl, rfl, rfl⟩

theorem plan_of_blank (around : Surroundings) {arguments : List Text} {s : Settings}
    (hparse : parse grammar {} arguments = .ok s)
    (hblank : s.base.encoding = .blank ∨ s.base.level = .blank) :
    ∃ o setting, plan around arguments = .inl o ∧ o.ending = .crash (.blank setting) ∧
      o.stdout = [] := by
  unfold plan
  rw [hparse]
  dsimp only
  cases hlevel : s.base.level with
  | blank =>
    rw [BaseSettings.console_of_blank hlevel]
    exact ⟨_, .level, rfl, rfl, rfl⟩
  | value level =>
    have hencoding : s.base.encoding = .blank := hblank.resolve_right (by simp [hlevel])
    rw [BaseSettings.console_of_value hlevel, BaseSettings.chosenEncoding_of_blank hencoding]
    exact ⟨_, .encoding, rfl, rfl, rfl⟩

/-- The exit code and the output are those for the bytes that came, unless the encoding or the level
is a blank, or the host and the port are no address. Then the program crashes before it listens. -/
theorem run_answers {arguments : List Text} {s : Settings}
    (hparse : parse grammar {} arguments = .ok s) (around : Surroundings) (visit : Visit) :
    (∀ e level, s.base.encoding = .value e → s.base.level = .value level →
      ((∀ fault, visit.listening ≠ .unusable fault) →
        (∀ v ∈ objects e visit.arrival.bytes, v.depth ≤ 300) →
        (run around arguments visit).outcome.ending = .exit (answer e s.expected visit).1 ∧
        (run around arguments visit).outcome.stdout = (answer e s.expected visit).2) ∧
      ∀ fault, visit.listening = .unusable fault →
        (run around arguments visit).outcome.ending = .crash (.address fault) ∧
        (run around arguments visit).outcome.stdout = []) ∧
    (∀ segments, Arrival.ofSegments segments = visit.arrival →
      run around arguments { visit with segments } = run around arguments visit) ∧
    (s.base.encoding = .blank ∨ s.base.level = .blank →
      ∃ setting, (run around arguments visit).outcome.ending = .crash (.blank setting) ∧
        (run around arguments visit).outcome.stdout = [] ∧
        (run around arguments visit).listened = []) := by
  refine ⟨fun e level hencoding hlevel => ?_, fun segments => run_congr _ _ _,
    fun hblank => ?_⟩
  · obtain ⟨t, hplan, rfl, hexpected⟩ := plan_of_parse around hparse hencoding hlevel
    unfold run
    rw [hplan, ← hexpected]
    refine ⟨serve_spec around t visit, fun fault hfault => ?_⟩
    unfold serve
    rw [hfault]
    exact ⟨rfl, rfl⟩
  · obtain ⟨o, setting, hplan, hending, hstdout⟩ := plan_of_blank around hparse hblank
    unfold run
    rw [hplan]
    exact ⟨setting, hending, hstdout, rfl⟩

/-- A record, a malformed line behind it, and a failure. -/
def tornVisit : Visit where
  listening := .listening 10053
  accepted := .ok ⟨"127.0.0.1", 40000⟩
  segments :=
    [ .data [0x7B, 0x22, 0x6D, 0x65, 0x73, 0x73, 0x61, 0x67, 0x65],
      .data [0x22, 0x3A, 0x31, 0x7D, 0x0A, 0x78], .data [0x0A], .fails "reset" ]
  watch := ⟨Binary64.zero, Binary64.zero⟩

def tornRun : Run := run ⟨false, ⟨0, 0⟩⟩ ["--encoding", "json", "--expect=1"] tornVisit

theorem run_answers_torn :
    (objects .json tornVisit.arrival.bytes).length = 1 ∧
      tornRun.outcome.ending = .exit ExitCode.badArgument ∧ tornRun.outcome.stdout = [] := by
  let s : Settings := { expected := some (.value 1), base := { encoding := .value .json } }
  have hparse : parse grammar {} ["--encoding", "json", "--expect=1"] = .ok s := rfl
  have hdepth : ∀ v ∈ objects .json tornVisit.arrival.bytes, v.depth ≤ 300 := by decide
  obtain ⟨hending, hstdout⟩ :=
    ((run_answers hparse ⟨false, ⟨0, 0⟩⟩ tornVisit).1 .json Level.warning rfl rfl).1
      (fun fault h => nomatch h) hdepth
  exact ⟨rfl, hending, hstdout⟩

def emptyVisit : Visit where
  listening := .listening 10053
  accepted := .ok ⟨"127.0.0.1", 40000⟩
  segments := []
  watch := ⟨Binary64.zero, Binary64.zero⟩

/-- The command line is accepted, and still no code comes out. -/
theorem no_exit_of_blank_level :
    ∃ s, parse grammar {} ["--log-level=--"] = .ok s ∧
      answer .msgpack s.expected emptyVisit = (ExitCode.success, ("0\n" : Text)) ∧
      ∀ code, (run ⟨false, ⟨0, 0⟩⟩ ["--log-level=--"] emptyVisit).outcome.ending ≠ .exit code := by
  refine ⟨_, rfl, rfl, fun code h => ?_⟩
  cases h

example :
    ({ port := .value 70000 } : Listener).fault? = some .portRange ∧
      (run ⟨false, ⟨0, 0⟩⟩ ["--port", "70000"]
        { emptyVisit with listening := .unusable .portRange }).outcome.ending =
          .crash (.address .portRange) := ⟨rfl, rfl⟩

end RecordStream.Command.Receive
