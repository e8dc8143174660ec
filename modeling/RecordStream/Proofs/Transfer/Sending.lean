import Mathlib.Data.List.Forall2
import RecordStream.Proofs.Transfer.Attempts
import RecordStream.Transfer.Emitter

/-!
What a run of an emitter leaves on the channel, whatever the attempts to send do: the frames of the
first records, and behind them a front of the next frame if sending failed inside it.
-/

namespace RecordStream

namespace Channel

inductive Sent (before data : Bytes) : Except SendFault Nat × Channel → Prop
  | whole {c : Channel} (taken : c.taken = before ++ data) : Sent before data (.ok data.length, c)
  | front {c : Channel} (fault : SendFault) {front back : Bytes} (split : data = front ++ back)
      (short : back ≠ []) (taken : c.taken = before ++ front) : Sent before data (.error fault, c)

theorem sent_sendAll (c : Channel) (data : Bytes) : Sent c.taken data (c.sendAll data) := by
  obtain ⟨tries, rest, last, htries, hsend⟩ := sendAll_spec c data
  have hdata := htries.taken_append
  have htaken : (c.sendAll data).2.taken = c.taken ++ tries.flatMap (·.taken) := by
    rw [hsend, taken, taken, List.reverse_append, List.reverse_reverse, List.flatMap_append]
  rw [hsend] at htaken ⊢
  cases last with
  | none =>
    obtain rfl := htries.rest_eq_nil_iff.2 rfl
    rw [List.append_nil] at hdata
    exact .whole (htaken.trans (by rw [hdata]))
  | some o =>
    have hrest : rest ≠ [] := fun h => nomatch htries.rest_eq_nil_iff.1 h
    exact .front _ hdata.symm hrest htaken

end Channel

theorem Channel.new_lets_go (script : List SendOutcome) :
    ({ outcomes := script } : Channel).holdsOffers = false := rfl

namespace Emitter

def frameAt (e : Emitter) (index : Nat) : Except RunFault Bytes :=
  match Record.forIndex index e.source with
  | .error fault => .error (.index fault)
  | .ok record => (e.codec.encoding.frame record).mapError .encode

theorem frameAt_eq_ok_iff {e : Emitter} {index : Nat} {frame : Bytes} :
    e.frameAt index = .ok frame ↔
      ∃ r, Record.forIndex index e.source = .ok r ∧ e.codec.encoding.frame r = .ok frame := by
  unfold frameAt
  cases Record.forIndex index e.source with
  | error fault => simp
  | ok r => cases h : e.codec.encoding.frame r <;> simp [Except.mapError, h]

/-- The frames are those of so many indices from the given one on. -/
def Frames (e : Emitter) (index count : Nat) (frames : List Bytes) : Prop :=
  List.Forall₂ (fun i frame => e.frameAt i = .ok frame) (List.range' index count) frames

/-- How a run stops at an index, after a front of its frame was taken. -/
inductive Stop (e : Emitter) (index : Nat) : Bytes → RunFault → Prop
  | unframed {fault : RunFault} (none : e.frameAt index = .error fault) : Stop e index [] fault
  | torn (fault : SendFault) {front back : Bytes} (split : e.frameAt index = .ok (front ++ back))
      (short : back ≠ []) : Stop e index front (.send index fault)

variable {e : Emitter} (hnew : e.codec.buffer = [])

theorem holdsOffers_sendRecord (index : Nat) (channel : Channel) :
    (e.sendRecord index channel).channel.holdsOffers = channel.holdsOffers := by
  unfold sendRecord
  cases Record.forIndex index e.source with
  | error fault => rfl
  | ok record =>
    dsimp only
    cases e.codec.encode record with
    | mk result codec =>
      cases result with
      | error fault => rfl
      | ok frame =>
        have hsend : (channel.sendAll frame).2.holdsOffers = channel.holdsOffers := rfl
        dsimp only
        generalize channel.sendAll frame = sent at hsend
        obtain ⟨result, channel⟩ := sent
        cases result with
        | ok sent => exact hsend
        | error fault =>
          dsimp only
          split_ifs <;> exact hsend

include hnew

theorem sendRecord_eq (index : Nat) {channel : Channel} (hfree : channel.holdsOffers = false) :
    e.sendRecord index channel =
      match e.frameAt index with
      | .error fault => { result := .error fault, codec := e.codec, channel }
      | .ok frame =>
        { result := (channel.sendAll frame).1.mapError (.send index), codec := e.codec,
          channel := (channel.sendAll frame).2 } := by
  obtain ⟨⟨encoding, buffer⟩, source⟩ := e
  cases hnew
  unfold sendRecord frameAt
  cases Record.forIndex index source with
  | error fault => rfl
  | ok record =>
    cases hframe : encoding.frame record with
    | error fault =>
      cases encoding <;> simp [Codec.encode, hframe, Except.mapError, Codec.reset]
    | ok frame =>
      have hsend : (channel.sendAll frame).2.holdsOffers = false := hfree
      simp only [Codec.encode, hframe, Except.mapError, List.nil_append]
      generalize channel.sendAll frame = sent at hsend
      obtain ⟨result, channel⟩ := sent
      cases result with
      | ok sent => rfl
      | error fault =>
        have hheld : (encoding.lendsBuffer && channel.holds fault) = false := by
          rw [Channel.holds, hsend, Bool.false_and, Bool.and_false]
        simp only [hheld]
        rfl

theorem sendRecord_spec (index : Nat) {channel : Channel} (hfree : channel.holdsOffers = false) :
    (e.sendRecord index channel).codec = e.codec ∧
    ((∃ frame, e.frameAt index = .ok frame ∧
        (e.sendRecord index channel).result = .ok frame.length ∧
        (e.sendRecord index channel).channel.taken = channel.taken ++ frame) ∨
      ∃ front fault, e.Stop index front fault ∧
        (e.sendRecord index channel).result = .error fault ∧
        (e.sendRecord index channel).channel.taken = channel.taken ++ front) := by
  rw [sendRecord_eq hnew index hfree]
  cases hframe : e.frameAt index with
  | error fault => exact ⟨rfl, .inr ⟨[], fault, .unframed hframe, rfl, (List.append_nil _).symm⟩⟩
  | ok frame =>
    refine ⟨rfl, ?_⟩
    dsimp only
    have hsent := channel.sent_sendAll frame
    generalize channel.sendAll frame = outcome at hsent
    cases hsent with
    | whole taken => exact .inl ⟨frame, rfl, rfl, taken⟩
    | front fault split short taken =>
      exact .inr ⟨_, _, .torn fault (split ▸ hframe) short, rfl, taken⟩

theorem sendRecords_spec (index bytesSent : Nat) {channel : Channel}
    (hfree : channel.holdsOffers = false) (count : Nat) :
    ∃ m frames front, e.Frames index m frames ∧
      (e.sendRecords index bytesSent channel count).channel.taken =
        channel.taken ++ (frames.flatten ++ front) ∧
      ((m = count ∧ front = [] ∧ (e.sendRecords index bytesSent channel count).result =
          .ok (bytesSent + frames.flatten.length)) ∨
        (m < count ∧ ∃ fault, e.Stop (index + m) front fault ∧
          (e.sendRecords index bytesSent channel count).result = .error fault)) := by
  induction count generalizing index bytesSent channel with
  | zero => exact ⟨0, [], [], .nil, by simp [sendRecords], .inl ⟨rfl, rfl, rfl⟩⟩
  | succ count ih =>
    obtain ⟨hcodec, ⟨frame, hframe, hresult, htaken⟩ | ⟨front, fault, hstop, hresult, htaken⟩⟩ :=
      sendRecord_spec hnew index hfree
    · have hrest : e.sendRecords index bytesSent channel (count + 1) =
          e.sendRecords (index + 1) (bytesSent + frame.length) (e.sendRecord index channel).channel
            count := by
        simp only [sendRecords, hresult, hcodec]
      obtain ⟨m, frames, front, hframes, hall, hend⟩ :=
        ih (index + 1) (bytesSent + frame.length) ((holdsOffers_sendRecord index channel).trans hfree)
      rw [← hrest] at hall hend
      refine ⟨m + 1, frame :: frames, front, .cons hframe hframes, ?_, ?_⟩
      · rw [hall, htaken, List.flatten_cons, List.append_assoc, List.append_assoc]
      · obtain ⟨rfl, hfront, hresult⟩ | ⟨hm, fault, hstop, hresult⟩ := hend
        · refine .inl ⟨rfl, hfront, hresult.trans ?_⟩
          rw [List.flatten_cons, List.length_append, Nat.add_assoc]
        · rw [Nat.add_right_comm] at hstop
          exact .inr ⟨by omega, fault, hstop, hresult⟩
    · refine ⟨0, [], front, .nil, ?_, .inr ⟨Nat.succ_pos _, fault, hstop, ?_⟩⟩
      · simp [sendRecords, hresult, htaken]
      · simp [sendRecords, hresult]

omit hnew in
theorem run_natCast (count : Nat) (channel : Channel) (watch : Stopwatch) :
    e.run count channel watch =
      let s := e.sendRecords 0 0 channel count
      { result := s.result.map fun (bytesSent : Nat) =>
          { messages := count, bytesSent, elapsed := .float watch.elapsed }
        emitter := { e with codec := s.codec }
        channel := s.channel } := by
  have hcount : ¬(count : Int) < 0 := by omega
  unfold run
  rw [if_neg hcount, Int.toNat_natCast]
  cases h : (e.sendRecords 0 0 channel count).result <;> simp only [h] <;> rfl

theorem run_spec (count : Nat) (outcomes : List SendOutcome) (watch : Stopwatch) :
    ∃ m frames front, e.Frames 0 m frames ∧
      (e.run count { outcomes } watch).channel.taken = frames.flatten ++ front ∧
      ((m = count ∧ front = [] ∧ (e.run count { outcomes } watch).result =
          .ok { messages := count, bytesSent := frames.flatten.length,
                elapsed := .float watch.elapsed }) ∨
        (m < count ∧ ∃ fault, e.Stop m front fault ∧
          (e.run count { outcomes } watch).result = .error fault)) := by
  obtain ⟨m, frames, front, hframes, htaken, hend⟩ :=
    sendRecords_spec hnew 0 0 (Channel.new_lets_go outcomes) count
  simp only [Nat.zero_add] at hend
  rw [run_natCast]
  refine ⟨m, frames, front, hframes, htaken, ?_⟩
  obtain ⟨hm, hfront, hresult⟩ | ⟨hm, fault, hstop, hresult⟩ := hend
  · refine .inl ⟨hm, hfront, ?_⟩
    simp only [hresult, Except.map]
  · refine .inr ⟨hm, fault, hstop, ?_⟩
    simp only [hresult, Except.map]

end Emitter

end RecordStream
