import RecordStream.Proofs.Transfer.Sending

/-!
Channels that hold on to what a failed attempt was offered, compared with channels that let go. The
calls are the same. Only a fault of an attempt that failed on a lent buffer is not reported as such,
and its frame stays in the buffer.
-/

namespace RecordStream

def Channel.holding (c : Channel) (holds : Bool) : Channel := { c with holdsOffers := holds }

theorem Channel.holding_holding (c : Channel) (holds holds' : Bool) :
    (c.holding holds').holding holds = c.holding holds := rfl

theorem Channel.holding_lets_go (c : Channel) : (c.holding false).holdsOffers = false := rfl

theorem Channel.sendAll_holding (c : Channel) (holds : Bool) (data : Bytes) :
    (c.holding holds).sendAll data = ((c.sendAll data).1, (c.sendAll data).2.holding holds) := rfl

/-- What becomes of the fault of a run whose channel holds on. -/
def Encoding.heldFault (encoding : Encoding) : RunFault → RunFault
  | .send k fault =>
    if encoding.lendsBuffer && fault.reason.isSome then .held else .send k fault
  | fault => fault

theorem Encoding.heldFault_of_not_lent {encoding : Encoding} (h : encoding.lendsBuffer = false) :
    encoding.heldFault = id := by
  funext fault
  cases fault with
  | send k fault =>
    rw [heldFault, h]
    rfl
  | _ => rfl

namespace Emitter

structure Held (e : Emitter) (s free : Sending) : Prop where
  channel : s.channel = free.channel.holding true
  result : s.result = free.result.mapError e.codec.encoding.heldFault
  codec : ∀ sent, s.result = .ok sent → s.codec = e.codec
  /-- The frame of the index where sending failed is still in the buffer. -/
  buffer : ∀ k fault, free.result = .error (.send k fault) →
    e.codec.encoding.heldFault (.send k fault) = .held → e.frameAt k = .ok s.codec.buffer

variable {e : Emitter}

/-- What the holding on does not concern is the same on both. -/
theorem Held.same {s free : Sending} (hchannel : s.channel = free.channel.holding true)
    (hresult : s.result = free.result) (hcodec : s.codec = e.codec)
    (hfault : free.result.mapError e.codec.encoding.heldFault = free.result) : Held e s free where
  channel := hchannel
  result := hresult.trans hfault.symm
  codec := fun _ _ => hcodec
  buffer := by
    intro k fault hend hheld
    rw [hend, Except.mapError, hheld] at hfault
    cases hfault

variable (hnew : e.codec.buffer = [])

include hnew

theorem held_sendRecord (index : Nat) (c : Channel) :
    Held e (e.sendRecord index (c.holding true)) (e.sendRecord index (c.holding false)) := by
  rw [sendRecord_eq hnew index c.holding_lets_go]
  obtain ⟨⟨encoding, buffer⟩, source⟩ := e
  cases hnew
  unfold sendRecord frameAt
  cases hrecord : Record.forIndex index source with
  | error fault => exact .same rfl rfl rfl rfl
  | ok record =>
    cases hframe : encoding.frame record with
    | error fault =>
      have hcodec : (Codec.encode ⟨encoding, []⟩ record).2.reset = ⟨encoding, []⟩ := by
        cases encoding <;> simp [Codec.encode, hframe, Codec.reset]
      simp only [Codec.encode, hframe, Except.mapError] at hcodec ⊢
      rw [hcodec]
      exact .same rfl rfl rfl rfl
    | ok frame =>
      simp only [Codec.encode, hframe, Except.mapError, List.nil_append, Channel.sendAll_holding]
      cases (c.sendAll frame).1 with
      | ok sent => exact .same rfl rfl rfl rfl
      | error fault =>
        have hholds : ((c.sendAll frame).2.holding true).holds fault = fault.reason.isSome :=
          Bool.true_and _
        simp only [hholds]
        cases hlent : encoding.lendsBuffer && fault.reason.isSome with
        | false => exact .same rfl rfl rfl (by simp [Except.mapError, Encoding.heldFault, hlent])
        | true =>
          constructor
          · rfl
          · simp [Except.mapError, Encoding.heldFault, hlent]
          · intro sent h
            cases h
          · rintro k fault ⟨⟩ -
            exact frameAt_eq_ok_iff.2 ⟨record, hrecord, hframe⟩

theorem held_sendRecords (index bytesSent : Nat) (c : Channel) (count : Nat) :
    Held e (e.sendRecords index bytesSent (c.holding true) count)
      (e.sendRecords index bytesSent (c.holding false) count) := by
  induction count generalizing index bytesSent c with
  | zero => exact .same rfl rfl rfl rfl
  | succ count ih =>
    obtain ⟨hchannel, hresult, hkept, hbuffer⟩ := held_sendRecord hnew index c
    have hcodec := (sendRecord_spec hnew index c.holding_lets_go).1
    have hfree : (e.sendRecord index (c.holding false)).channel.holdsOffers = false :=
      holdsOffers_sendRecord index _
    rw [sendRecords, sendRecords]
    generalize e.sendRecord index (c.holding true) = s at *
    generalize e.sendRecord index (c.holding false) = free at *
    cases hend : free.result with
    | error fault =>
      rw [hend] at hresult hbuffer
      simp only [hresult]
      refine ⟨hchannel, rfl, ?_, hbuffer⟩
      intro sent h
      cases h
    | ok sent =>
      rw [hend] at hresult
      have hrest : free.channel = free.channel.holding false := by
        rw [Channel.holding, ← hfree]
      simp only [hresult, hchannel, hkept sent hresult, hcodec, Except.mapError]
      rw [hrest, Channel.holding_holding]
      exact ih ..

/-- A run on a channel that holds on makes the calls of one on a channel that lets go. If the buffer
was lent when the last of them failed, that is what the run reports, and the frame stays. -/
theorem run_held (count : Nat) (script : List SendOutcome) (watch : Stopwatch) :
    let free := e.run count { outcomes := script } watch
    let run := e.run count { outcomes := script, holdsOffers := true } watch
    run.channel = free.channel.holding true ∧
    run.result = free.result.mapError e.codec.encoding.heldFault ∧
    ∀ k fault, free.result = .error (.send k fault) →
      e.codec.encoding.heldFault (.send k fault) = .held →
      e.frameAt k = .ok run.emitter.codec.buffer := by
  intro free run
  obtain ⟨hchannel, hresult, -, hbuffer⟩ := held_sendRecords hnew 0 0 { outcomes := script } count
  simp only [Channel.holding] at hchannel hresult hbuffer
  simp only [free, run, run_natCast, hresult]
  refine ⟨hchannel, ?_, fun k fault hfault => hbuffer k fault ?_⟩
  · cases (e.sendRecords 0 0 { outcomes := script } count).result <;> rfl
  · cases hend : (e.sendRecords 0 0 { outcomes := script } count).result with
    | ok sent =>
      rw [hend] at hfault
      cases hfault
    | error fault =>
      rw [hend] at hfault
      cases hfault
      rfl

example :
    (run { codec := { encoding := .json } } 1 { outcomes := [.fails "reset"], holdsOffers := true }
      ⟨Binary64.zero, Binary64.zero⟩).result = .error .held := rfl

theorem run_of_lets_go {holds : Bool} (hfree : e.codec.encoding.lendsBuffer = true → holds = false)
    (count : Nat) (script : List SendOutcome) (watch : Stopwatch) :
    let free := e.run count { outcomes := script } watch
    let run := e.run count { outcomes := script, holdsOffers := holds } watch
    run.result = free.result ∧ run.channel.attempts = free.channel.attempts := by
  intro free run
  cases holds with
  | false => exact ⟨rfl, rfl⟩
  | true =>
    have hlent : e.codec.encoding.lendsBuffer = false :=
      Bool.eq_false_iff.2 fun h => nomatch hfree h
    obtain ⟨hchannel, hresult, -⟩ := run_held hnew count script watch
    have hattempts := congrArg Channel.attempts hchannel
    rw [Encoding.heldFault_of_not_lent hlent] at hresult
    refine ⟨hresult.trans ?_, hattempts⟩
    cases free.result <;> rfl

end Emitter

end RecordStream
