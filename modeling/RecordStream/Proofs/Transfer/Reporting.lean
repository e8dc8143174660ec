import RecordStream.Proofs.Transfer.Calls
import RecordStream.Proofs.Transfer.Frames
import RecordStream.Proofs.Transfer.Holding

/-!
A run reports truthfully what it put on its channel: all frames, or the first ones and a front of
the next if a call ended the sending.
-/

namespace RecordStream

/-- The call of this index was made, and what it met ended the sending. -/
def Channel.StoppedAt (script : List SendOutcome) (c : Channel) (call : Nat) : Prop :=
  call < c.attempts.length ∧ ∃ o, script[call]? = some o ∧ o.stops

section

variable {script : List SendOutcome} {c : Channel}

theorem Channel.Smooth.not_stoppedAt (h : Channel.Smooth { outcomes := script } c) (call : Nat) :
    ¬c.StoppedAt script call := by
  obtain ⟨calls, hcalls, hgo⟩ := h
  rintro ⟨hcall, o, ho, hstops⟩
  have hlength : c.attempts.length = calls := by simpa using hcalls.attempts
  have hmem : o ∈ script.take calls := by
    refine List.mem_of_getElem? (i := call) ?_
    rw [List.getElem?_take_of_lt (by omega), ho]
  rw [hgo o hmem] at hstops
  cases hstops

theorem Channel.Blocked.attempts_ne_zero {c c' : Channel} (h : c.Blocked c') :
    c'.attempts.length ≠ 0 := by
  obtain ⟨calls, o, hcalls, -⟩ := h
  rw [hcalls.attempts]
  omega

theorem Channel.Blocked.stoppedAt_iff (h : Channel.Blocked { outcomes := script } c) {call : Nat} :
    c.StoppedAt script call ↔ call + 1 = c.attempts.length := by
  obtain ⟨calls, o, hcalls, hgo, ho, hstops⟩ := h
  have hlength : c.attempts.length = calls + 1 := by simpa using hcalls.attempts
  constructor
  · rintro ⟨hcall, o', ho', hstops'⟩
    by_contra hne
    have hmem : o' ∈ script.take calls := by
      refine List.mem_of_getElem? (i := call) ?_
      rw [List.getElem?_take_of_lt (by omega), ho']
    rw [hgo o' hmem] at hstops'
    cases hstops'
  · intro hlast
    obtain rfl : call = calls := by omega
    exact ⟨by omega, o, ho, hstops⟩

end

namespace Emitter

variable {e : Emitter}

theorem run_sent (hnew : e.codec.buffer = []) {count : Nat} (hsend : e.Sendable ∨ count = 0)
    (hcount : count ≤ 10 ^ Decimal.maxDigits) (script : List SendOutcome) (watch : Stopwatch)
    {run : Run} (hrun : run = e.run count { outcomes := script } watch) :
    ∃ frames, e.Frames 0 count frames ∧
      ((run.channel.taken = frames.flatten ∧ run.result =
          .ok { messages := count, bytesSent := frames.flatten.length,
                elapsed := .float watch.elapsed }) ∨
        ∃ k fault, run.result = .error (.send k fault) ∧ Torn frames k run.channel.taken) := by
  obtain ⟨m, sent, front, hsent, htaken, hend⟩ := run_spec hnew count script watch
  rw [← hrun] at htaken hend
  obtain ⟨rfl, rfl, hresult⟩ | ⟨hm, fault, hstop, hresult⟩ := hend
  · rw [List.append_nil] at htaken
    exact ⟨sent, hsent, .inl ⟨htaken, hresult⟩⟩
  · replace hsend := hsend.resolve_right (by omega)
    cases hstop with
    | unframed none =>
      have hindex : m < 10 ^ Decimal.maxDigits := by omega
      obtain ⟨frame, hframe⟩ := e.exists_frameAt hsend hindex
      rw [hframe] at none
      cases none
    | @torn fault front back split short =>
      obtain ⟨rest, hrest⟩ := e.exists_frames hsend (m + 1) (count - (m + 1)) (by omega)
      have hall : e.Frames 0 (m + (count - (m + 1) + 1)) (sent ++ (front ++ back) :: rest) :=
        hsent.append (by rw [Nat.zero_add]; exact .cons split hrest)
      rw [show m + (count - (m + 1) + 1) = count by omega] at hall
      refine ⟨_, hall, .inr ⟨m, fault, hresult, front, front ++ back, ?_, ?_, ?_, ?_⟩⟩
      · rw [List.getElem?_append_right hsent.length.le, hsent.length, Nat.sub_self]
        rfl
      · rw [htaken, List.take_left' hsent.length]
      · exact List.prefix_append front back
      · simpa using short.symm

theorem run_of_not_sendable (hnew : e.codec.buffer = []) (hsend : ¬e.Sendable) {count : Nat}
    (hcount : 0 < count) (script : List SendOutcome) (watch : Stopwatch) :
    (∃ fault, e.source.Unwritable e.codec.encoding fault ∧
        (e.run count { outcomes := script } watch).result = .error (.encode fault)) ∧
      (e.run count { outcomes := script } watch).channel = { outcomes := script } := by
  obtain ⟨fault, hfault, hframe⟩ := e.frameAt_of_not_sendable hsend (Nat.pow_pos (by decide))
  obtain ⟨count, rfl⟩ := Nat.exists_eq_succ_of_ne_zero hcount.ne'
  have hfirst : e.sendRecord 0 { outcomes := script } =
      { result := .error (.encode fault), codec := e.codec,
        channel := { outcomes := script } } := by
    rw [sendRecord_eq hnew 0 (Channel.new_lets_go script), hframe]
  rw [run_natCast]
  simp only [sendRecords, hfirst, and_true]
  exact ⟨fault, hfault, rfl⟩

/-- The bytes taken are a front of the frames of all indices. Without a call that ended the sending
they are all of them, and the statistics say so. A call that ended it is the last one, and the fault
counts the frames that were taken whole. A surrogate in the source is reported before any call. The
channel must let go of a buffer that was lent; `run_held` says what happens if it does not. -/
theorem run_sends_front (encoding : Encoding) (source : Text) (hsource : source.length < 2 ^ 30)
    (count : Nat) (hcount : count ≤ 10 ^ Decimal.maxDigits) (script : List SendOutcome) (holds : Bool)
    (hfree : encoding.lendsBuffer = true → holds = false) (watch : Stopwatch) :
    let e := new encoding source
    let run := e.run count { outcomes := script, holdsOffers := holds } watch
    (source.hasSurrogate = true ∧ 0 < count →
      (∃ u, run.result = .error (.encode (.surrogate u))) ∧ run.channel.attempts = []) ∧
    (source.hasSurrogate = false ∨ count = 0 →
      ∃ frames, e.Frames 0 count frames ∧ run.channel.taken <+: frames.flatten ∧
        ((∀ call, ¬run.channel.StoppedAt script call) →
          run.channel.taken = frames.flatten ∧ run.result =
            .ok { messages := count, bytesSent := frames.flatten.length,
                  elapsed := .float watch.elapsed }) ∧
        ∀ call, run.channel.StoppedAt script call →
          call + 1 = run.channel.attempts.length ∧
          ∃ k fault, run.result = .error (.send k fault) ∧ k < count ∧
            k = wholeFrames frames run.channel.taken ∧ Torn frames k run.channel.taken) := by
  intro e run
  obtain ⟨free, hrun⟩ : ∃ free, free = e.run count { outcomes := script } watch := ⟨_, rfl⟩
  obtain ⟨hresult, hattempts⟩ : run.result = free.result ∧
      run.channel.attempts = free.channel.attempts := by
    subst hrun
    exact run_of_lets_go rfl hfree count script watch
  have htaken : run.channel.taken = free.channel.taken := by
    rw [Channel.taken, Channel.taken, hattempts]
  have hstopped (call : Nat) :
      run.channel.StoppedAt script call ↔ free.channel.StoppedAt script call := by
    rw [Channel.StoppedAt, Channel.StoppedAt, hattempts]
  have hended := ended_run (e := e) rfl count (Channel.new_lets_go script) watch
  rw [← hrun] at hended
  simp only [hresult, hattempts, htaken, hstopped]
  constructor
  · rintro ⟨hsurrogate, hpos⟩
    have hsend : ¬e.Sendable := by
      intro hsend
      rw [Given.plain_value_iff.1 hsend.1] at hsurrogate
      cases hsurrogate
    obtain ⟨⟨fault, hfault, hresult⟩, hchannel⟩ := e.run_of_not_sendable rfl hsend hpos script watch
    rw [← hrun] at hresult hchannel
    refine ⟨?_, congrArg Channel.attempts hchannel⟩
    cases hfault with
    | surrogate mixed u => exact ⟨u, hresult⟩
    | size plain large => exact absurd (Given.hasRoom_of_length hsource encoding) large
  · intro hplain
    replace hplain : e.Sendable ∨ count = 0 :=
      hplain.imp_left fun hplain => sendable_new hplain hsource encoding
    obtain ⟨frames, hframes, ⟨hall, hfault⟩ | ⟨k, fault, hfault, htorn⟩⟩ :=
      e.run_sent rfl hplain hcount script watch hrun
    · rw [hfault] at hended
      refine ⟨frames, hframes, hall ▸ List.prefix_rfl, fun _ => ⟨hall, hfault⟩, ?_⟩
      intro call hcall
      exact absurd hcall (Channel.Smooth.not_stoppedAt hended call)
    · rw [hfault] at hended
      have hlast (call : Nat) : free.channel.StoppedAt script call ↔
          call + 1 = free.channel.attempts.length := Channel.Blocked.stoppedAt_iff hended
      refine ⟨frames, hframes, htorn.isPrefix, fun hnone => ?_, fun call hcall => ?_⟩
      · exact absurd ((hlast _).2 (Nat.succ_pred hended.attempts_ne_zero)) (hnone _)
      · exact ⟨(hlast call).1 hcall, k, fault, hfault, hframes.length ▸ htorn.lt,
          htorn.wholeFrames_eq.symm, htorn⟩

def resetScript : List SendOutcome :=
  [.takes 5, .takes 1000, .takes 4, .fails "reset", .takes 7]

def resetRun : Run :=
  (new .json "ab").run (2 : Nat) { outcomes := resetScript } ⟨Binary64.zero, Binary64.zero⟩

theorem run_sends_front_reset :
    2 ≤ 10 ^ Decimal.maxDigits ∧ resetRun.channel.attempts.length = 4 ∧
      ∃ frames, (new .json "ab").Frames 0 2 frames ∧
        wholeFrames frames resetRun.channel.taken = 1 ∧
        ∃ fault, resetRun.result = .error (.send 1 fault) := by
  have hcount : 2 ≤ 10 ^ Decimal.maxDigits :=
    (by decide : 2 ≤ 10 ^ 1).trans (Nat.pow_le_pow_right (by decide) (by decide))
  obtain ⟨fault, hfault⟩ : ∃ fault, resetRun.result = .error (.send 1 fault) := ⟨_, rfl⟩
  have hstopped : resetRun.channel.StoppedAt resetScript 3 := ⟨by decide, _, rfl, rfl⟩
  obtain ⟨frames, hframes, -, -, hlast⟩ := (run_sends_front .json "ab" (by decide) 2 hcount
    resetScript false (fun _ => rfl) ⟨Binary64.zero, Binary64.zero⟩).2 (.inl (by decide))
  obtain ⟨hattempts, k, fault', hresult, -, hk, -⟩ := hlast 3 hstopped
  cases hfault.symm.trans hresult
  exact ⟨hcount, hattempts.symm, frames, hframes, hk.symm, fault, hfault⟩

end Emitter

end RecordStream
