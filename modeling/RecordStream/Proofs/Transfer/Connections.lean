import RecordStream.Proofs.Transfer.Arrival

/-!
Connections that one sink reads one after the other. What comes of a connection depends on the rules
of the sink and on what the connection brings, not on the cuts, the buffer or the connections before.
-/

namespace RecordStream

/-- A connection, with the peer it is accepted from if that is still to be done. -/
structure Connection where
  peer : Option Endpoint := none
  segments : List Segment
  watch : Stopwatch

def Connection.arrival (c : Connection) : Arrival := Arrival.ofSegments c.segments

inductive ReceiveFault.Kind
  | decode
  | stream
  | depth
deriving DecidableEq

def ReceiveFault.kind {e : Encoding} : ReceiveFault e → Kind
  | .decode _ => .decode
  | .stream _ => .stream
  | .tooDeep => .depth

structure Tally where
  records : Int
  dropped : Int
  bytesReceived : Int
deriving DecidableEq

namespace Sink

/-- The settings that decide what becomes of an object. -/
structure Rules where
  encoding : Encoding
  requireMessage : Bool
  keep : Bool
deriving DecidableEq

def rules (s : Sink) : Rules := ⟨s.encoding, s.requireMessage, s.keep⟩

def handle (s : Sink) (c : Connection) : Consumption s.encoding :=
  match c.peer with
  | some peer => s.serveOne peer c.segments c.watch
  | none => s.consume c.segments c.watch

def behind (s : Sink) (history : List Connection) : Sink :=
  history.foldl (fun s c => (s.handle c).sink) s

def handled (s : Sink) (bytes : Bytes) : List Value :=
  (s.reading bytes).objects.takeWhile s.canHandle

def kept (s : Sink) (bytes : Bytes) : List Value :=
  if s.keep then (s.handled bytes).filter s.accepts else []

namespace Consumption

variable {e : Encoding}

def verdict (c : Consumption e) : Except (ReceiveFault.Kind × Text) Tally :=
  match c.result with
  | .ok stats => .ok ⟨stats.records, stats.dropped, stats.bytesReceived⟩
  | .error fault => .error (fault.kind, fault.message)

def warnings (c : Consumption e) : List LogLine := c.logs.filter (·.level == Level.warning)

end Consumption

/-! One connection. -/

section

variable (s : Sink) (a : Arrival) (watch : Stopwatch)

theorem sink_conclude : (s.conclude (s.reading a.bytes) a watch).sink =
    { s with records := s.records ++ s.kept a.bytes } := by
  have hkeep : s.keepAccepted (s.handled a.bytes) =
      { s with records := s.records ++ s.kept a.bytes } := by
    unfold keepAccepted kept
    split_ifs
    · rfl
    · rw [List.append_nil]
  rw [← hkeep]
  unfold conclude handled
  cases s.faultOf (s.reading a.bytes) a.ending <;> rfl

theorem closed_conclude : (s.conclude (s.reading a.bytes) a watch).closed = 0 := by
  unfold conclude
  cases s.faultOf (s.reading a.bytes) a.ending <;> rfl

theorem filter_warning_drops (objects : List Value) :
    (objects.map droppingLine).filter (·.level == Level.warning) = objects.map droppingLine := by
  rw [List.filter_eq_self]
  intro line hline
  obtain ⟨v, -, rfl⟩ := List.mem_map.1 hline
  rfl

theorem warnings_conclude : (s.conclude (s.reading a.bytes) a watch).warnings =
    ((s.handled a.bytes).filter fun v => !s.accepts v).map droppingLine := by
  unfold conclude Consumption.warnings
  cases s.faultOf (s.reading a.bytes) a.ending with
  | some fault => exact filter_warning_drops _
  | none =>
    dsimp only
    rw [List.filter_append, filter_warning_drops]
    exact List.append_nil _

theorem verdict_conclude : (s.conclude (s.reading a.bytes) a watch).verdict =
    match s.faultOf (s.reading a.bytes) a.ending with
    | some fault => .error (fault.kind, fault.message)
    | none =>
      let objects := (s.reading a.bytes).objects
      .ok ⟨objects.countP s.accepts, objects.countP fun v => !s.accepts v, a.bytes.length⟩ := by
  unfold conclude Consumption.verdict
  cases s.faultOf (s.reading a.bytes) a.ending <;> rfl

theorem verdict_with (bufferSize : Nat) (records : List Value) (watch' : Stopwatch) :
    let s' : Sink := { s with bufferSize, records }
    (s'.conclude (s'.reading a.bytes) a watch').verdict =
      (s.conclude (s.reading a.bytes) a watch).verdict := by
  intro s'
  have hfault : s'.faultOf (s'.reading a.bytes) a.ending = s.faultOf (s.reading a.bytes) a.ending :=
    rfl
  rw [verdict_conclude, verdict_conclude, hfault]
  cases s.faultOf (s.reading a.bytes) a.ending <;> rfl

variable {s} (hbuffer : 1 ≤ s.bufferSize) (c : Connection)

include hbuffer

theorem handle_spec :
    (s.handle c).sink = { s with records := s.records ++ s.kept c.arrival.bytes } ∧
    (s.handle c).warnings =
      ((s.handled c.arrival.bytes).filter fun v => !s.accepts v).map droppingLine ∧
    (s.handle c).verdict =
      (s.conclude (s.reading c.arrival.bytes) c.arrival c.watch).verdict := by
  rw [← s.sink_conclude c.arrival c.watch, ← s.warnings_conclude c.arrival c.watch]
  have hconsume := s.consume_eq hbuffer c.segments c.watch
  unfold handle
  cases c.peer with
  | none => rw [hconsume]; exact ⟨rfl, rfl, rfl⟩
  | some peer =>
    unfold serveOne
    rw [hconsume]
    exact ⟨rfl, rfl, rfl⟩

/-! Connections in a row. -/

theorem exists_behind_eq (history : List Connection) :
    ∃ records, s.behind history = { s with records } := by
  induction history generalizing s with
  | nil => exact ⟨s.records, rfl⟩
  | cons c history ih =>
    obtain ⟨hsink, -⟩ := handle_spec hbuffer c
    have hnext : s.behind (c :: history) = (s.handle c).sink.behind history := rfl
    rw [hnext, hsink]
    exact ih hbuffer

end

theorem exists_eq_of_rules {s s' : Sink} (h : s.rules = s'.rules) :
    ∃ bufferSize records, s = { s' with bufferSize, records } := by
  obtain ⟨encoding, requireMessage, keep, bufferSize, records⟩ := s
  obtain ⟨encoding', requireMessage', keep', bufferSize', records'⟩ := s'
  cases h
  exact ⟨bufferSize, records, rfl⟩

/-- Two connections that bring the same to sinks of the same rules, behind any other connections and
however they are cut, end with the same verdict and the same warnings, and add the same objects to
the records: the accepted ones before the first error. A connection that is accepted is closed once,
whatever becomes of it. -/
theorem connections_stand_alone (s₁ s₂ : Sink) (hrules : s₁.rules = s₂.rules)
    (hbuffer₁ : 1 ≤ s₁.bufferSize) (hbuffer₂ : 1 ≤ s₂.bufferSize)
    (history₁ history₂ : List Connection) (c₁ c₂ : Connection)
    (harrival : c₁.arrival = c₂.arrival) :
    let t₁ := s₁.behind history₁
    let t₂ := s₂.behind history₂
    (t₁.handle c₁).verdict = (t₂.handle c₂).verdict ∧
    (t₁.handle c₁).warnings = (t₂.handle c₂).warnings ∧
    (∃ kept, (t₁.handle c₁).sink.records = t₁.records ++ kept ∧
      (t₂.handle c₂).sink.records = t₂.records ++ kept ∧
      kept = if s₁.keep then (s₁.handled c₁.arrival.bytes).filter s₁.accepts else []) ∧
    ∀ peer, (t₁.serveOne peer c₁.segments c₁.watch).closed = 1 := by
  obtain ⟨records₁, ht₁⟩ := exists_behind_eq hbuffer₁ history₁
  obtain ⟨records₂, ht₂⟩ := exists_behind_eq hbuffer₂ history₂
  obtain ⟨bufferSize, records, rfl⟩ := exists_eq_of_rules hrules
  intro t₁ t₂
  replace ht₁ : t₁ = _ := ht₁
  replace ht₂ : t₂ = _ := ht₂
  have hbuffer₁ : 1 ≤ t₁.bufferSize := by rw [ht₁]; exact hbuffer₁
  have hbuffer₂ : 1 ≤ t₂.bufferSize := by rw [ht₂]; exact hbuffer₂
  obtain ⟨hsink₁, hwarnings₁, hverdict₁⟩ := handle_spec hbuffer₁ c₁
  obtain ⟨hsink₂, hwarnings₂, hverdict₂⟩ := handle_spec hbuffer₂ c₂
  refine ⟨?_, ?_, ⟨t₁.kept c₁.arrival.bytes, ?_, ?_, ?_⟩, fun peer => ?_⟩
  · rw [hverdict₁, hverdict₂, harrival, ht₁, ht₂]
    exact (s₂.verdict_with _ c₂.watch _ _ _).trans (s₂.verdict_with _ c₂.watch _ _ _).symm
  · rw [hwarnings₁, hwarnings₂, harrival, ht₁, ht₂]
    rfl
  · rw [hsink₁]
  · rw [hsink₂, harrival, ht₁, ht₂]
    rfl
  · rw [ht₁]
    rfl
  · rw [serveOne, consume_eq _ hbuffer₁, closed_conclude]

theorem connections_stand_alone_torn :
    let s₁ : Sink := { encoding := .json, bufferSize := 1 }
    let s₂ : Sink := { encoding := .json }
    let watch : Stopwatch := ⟨Binary64.zero, Binary64.zero⟩
    let half : Connection := ⟨none, [.data [0x7B]], watch⟩
    let c₁ : Connection :=
      ⟨none, [.data [0x31, 0x0A], .data [0x78], .data [0x0A], .fails "reset"], watch⟩
    let c₂ : Connection := ⟨none, [.data [0x31, 0x0A, 0x78, 0x0A], .fails "reset"], watch⟩
    s₁.rules = s₂.rules ∧ c₁.arrival = c₂.arrival ∧
      ((s₁.behind [half]).handle c₁).verdict = (s₂.handle c₂).verdict ∧
      ((s₁.behind [half]).handle c₁).warnings = (s₂.handle c₂).warnings ∧
      ∃ text, (s₂.handle c₂).verdict = .error (.decode, text) := by
  intro s₁ s₂ watch half c₁ c₂
  obtain ⟨hverdict, hwarnings, -⟩ := connections_stand_alone s₁ s₂ rfl (by decide) (by decide)
    [half] [] c₁ c₂ rfl
  exact ⟨rfl, rfl, hverdict, hwarnings, _, rfl⟩

end Sink

end RecordStream
