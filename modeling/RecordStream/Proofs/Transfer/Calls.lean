import RecordStream.Proofs.Transfer.Sending

/-!
The calls that a run makes on its channel. Each uses up one of the given outcomes while there are
any, and a call that takes nothing or fails is the last one.
-/

namespace RecordStream

namespace Channel

structure Calls (c c' : Channel) (calls : Nat) : Prop where
  attempts : c'.attempts.length = c.attempts.length + calls
  outcomes : c'.outcomes = c.outcomes.drop calls

/-- Calls lead from one state to another, and none of them ended the sending. -/
def Smooth (c c' : Channel) : Prop :=
  ∃ calls, c.Calls c' calls ∧ ∀ o ∈ c.outcomes.take calls, o.stops = false

/-- Calls lead from one state to another, and the last of them alone ended the sending. -/
def Blocked (c c' : Channel) : Prop :=
  ∃ calls o, c.Calls c' (calls + 1) ∧ (∀ o ∈ c.outcomes.take calls, o.stops = false) ∧
    c.outcomes[calls]? = some o ∧ o.stops

theorem Calls.refl (c : Channel) : c.Calls c 0 := ⟨rfl, rfl⟩

theorem Calls.trans {a b c : Channel} {m n : Nat} (h : a.Calls b m) (h' : b.Calls c n) :
    a.Calls c (m + n) where
  attempts := by rw [h'.attempts, h.attempts, Nat.add_assoc]
  outcomes := by rw [h'.outcomes, h.outcomes, List.drop_drop]

theorem Smooth.refl (c : Channel) : c.Smooth c := ⟨0, .refl c, by simp⟩

private theorem smooth_take {a b : Channel} {m n : Nat} (h : a.Calls b m)
    (hfront : ∀ o ∈ a.outcomes.take m, o.stops = false)
    (hback : ∀ o ∈ b.outcomes.take n, o.stops = false) :
    ∀ o ∈ a.outcomes.take (m + n), o.stops = false := by
  intro o ho
  rw [List.take_add, List.mem_append, ← h.outcomes] at ho
  exact ho.elim (hfront o) (hback o)

theorem Smooth.trans {a b c : Channel} (h : a.Smooth b) (h' : b.Smooth c) : a.Smooth c := by
  obtain ⟨m, hm, hfront⟩ := h
  obtain ⟨n, hn, hback⟩ := h'
  exact ⟨m + n, hm.trans hn, smooth_take hm hfront hback⟩

theorem Smooth.blocked {a b c : Channel} (h : a.Smooth b) (h' : b.Blocked c) : a.Blocked c := by
  obtain ⟨m, hm, hfront⟩ := h
  obtain ⟨n, o, hn, hback, ho, hstops⟩ := h'
  refine ⟨m + n, o, hm.trans hn, smooth_take hm hfront hback, ?_, hstops⟩
  rw [← ho, hm.outcomes, List.getElem?_drop]

/-! Calls for some data, a record, and all records. -/

inductive Met (c : Channel) : Except SendFault Nat × Channel → Prop
  | smooth (sent : Nat) {c' : Channel} (h : c.Smooth c') : Met c (.ok sent, c')
  | blocked (fault : SendFault) {c' : Channel} (h : c.Blocked c') : Met c (.error fault, c')

theorem met_sendAll (c : Channel) (data : Bytes) : c.Met (c.sendAll data) := by
  obtain ⟨tries, rest, last, htries, hsend⟩ := sendAll_spec c data
  have hcalls : c.Calls { c with outcomes := c.outcomes.drop tries.length
                                 attempts := tries.reverse ++ c.attempts } tries.length :=
    ⟨by simp [Nat.add_comm], rfl⟩
  rw [hsend]
  cases last with
  | none => exact .smooth _ ⟨_, hcalls, htries.stops_eq_false⟩
  | some o =>
    obtain ⟨call, hlength, ho, hstops, hgo⟩ := htries.exists_last
    exact .blocked _ ⟨call, o, hlength ▸ hcalls, hgo, ho, hstops⟩

/-- What the calls of a run met, by what came of the run: the last call ended the sending exactly if
the run says so. -/
def Ended {α : Type} (c c' : Channel) : Except RunFault α → Prop
  | .error (.send ..) => c.Blocked c'
  | _ => c.Smooth c'

theorem Ended.map {α β : Type} {c c' : Channel} {r : Except RunFault α} (h : Ended c c' r)
    (f : α → β) : Ended c c' (r.map f) := by
  cases r with
  | ok a => exact h
  | error fault => cases fault <;> exact h

theorem Smooth.ended {α : Type} {a b c : Channel} (h : a.Smooth b) {r : Except RunFault α}
    (hr : Ended b c r) : Ended a c r := by
  match r, hr with
  | .error (.send ..), hr => exact h.blocked hr
  | .ok _, hr | .error (.negativeCount _), hr | .error (.index _), hr | .error (.encode _), hr
  | .error .held, hr =>
    exact h.trans hr

end Channel

namespace Emitter

open Channel (Ended)

variable {e : Emitter} (hnew : e.codec.buffer = [])

theorem frameAt_ne_send {index m : Nat} {fault : SendFault} :
    e.frameAt index ≠ .error (.send m fault) := by
  unfold frameAt
  cases Record.forIndex index e.source with
  | error fault => simp
  | ok r =>
    cases hframe : e.codec.encoding.frame r <;> simp [hframe, Except.mapError]

include hnew

theorem ended_sendRecord (index : Nat) {channel : Channel} (hfree : channel.holdsOffers = false) :
    Ended channel (e.sendRecord index channel).channel (e.sendRecord index channel).result := by
  rw [sendRecord_eq hnew index hfree]
  cases hframe : e.frameAt index with
  | error fault =>
    cases fault with
    | send m fault => exact absurd hframe frameAt_ne_send
    | _ => exact .refl channel
  | ok frame =>
    dsimp only
    have hmet := channel.met_sendAll frame
    generalize channel.sendAll frame = outcome at hmet
    cases hmet with
    | smooth sent h => exact h
    | blocked fault h => exact h

theorem ended_sendRecords (index bytesSent : Nat) {channel : Channel}
    (hfree : channel.holdsOffers = false) (count : Nat) :
    Ended channel (e.sendRecords index bytesSent channel count).channel
      (e.sendRecords index bytesSent channel count).result := by
  induction count generalizing index bytesSent channel with
  | zero => exact .refl channel
  | succ count ih =>
    have hfirst := ended_sendRecord hnew index hfree
    have hcodec := (sendRecord_spec hnew index hfree).1
    have hrest := (holdsOffers_sendRecord (e := e) index channel).trans hfree
    rw [sendRecords]
    cases hresult : (e.sendRecord index channel).result with
    | error fault =>
      rw [hresult] at hfirst
      cases fault <;> exact hfirst
    | ok sent =>
      rw [hresult] at hfirst
      simp only [hcodec]
      exact Channel.Smooth.ended hfirst (ih _ _ hrest)

theorem ended_run (count : Nat) {channel : Channel} (hfree : channel.holdsOffers = false)
    (watch : Stopwatch) :
    Ended channel (e.run count channel watch).channel (e.run count channel watch).result := by
  rw [run_natCast]
  exact (ended_sendRecords hnew 0 0 hfree count).map _

end Emitter

end RecordStream
