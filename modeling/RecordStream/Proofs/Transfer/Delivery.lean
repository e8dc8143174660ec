import RecordStream.Proofs.Transfer.Frames
import RecordStream.Proofs.Transfer.Receiving

/-!
From an emitter to a sink. Whatever the attempts to send do and however the bytes are cut on their
way, the sink keeps exactly the records that the emitter counts as sent, and bytes behind them are
reported as the front of a frame.
-/

namespace RecordStream

namespace Delivery

open Emitter (new)

variable {e : Encoding} {source : Text}

def RecordAt (source : Text) (index : Nat) (v : Value) : Prop :=
  ∃ r, Record.forIndex index (.value source) = .ok r ∧ v = r.toValue

theorem whole_frameAt {index : Nat} {frame : Bytes}
    (h : (new e source).frameAt index = .ok frame) :
    ∃ v, RecordAt source index v ∧ e.framing.Whole frame v := by
  obtain ⟨r, hrecord, hframe⟩ := Emitter.frameAt_eq_ok_iff.1 h
  exact ⟨r.toValue, ⟨r, hrecord, rfl⟩, Encoding.frame_whole hframe⟩

theorem whole_frames {indices : List Nat} {frames : List Bytes}
    (h : List.Forall₂ (fun i frame => (new e source).frameAt i = .ok frame) indices frames) :
    ∃ objects, List.Forall₂ (RecordAt source) indices objects ∧
      List.Forall₂ e.framing.Whole frames objects ∧ ∀ v ∈ objects, v.hasKey "message" := by
  induction h with
  | nil => exact ⟨[], .nil, .nil, List.forall_mem_nil _⟩
  | cons hframe _ ih =>
    obtain ⟨v, hv, hwhole⟩ := whole_frameAt hframe
    obtain ⟨objects, hobjects, hframes, hkeys⟩ := ih
    have hkey : v.hasKey "message" := by
      obtain ⟨r, -, rfl⟩ := hv
      exact r.hasKey_toValue
    exact ⟨v :: objects, .cons hv hobjects, .cons hwhole hframes,
      List.forall_mem_cons.2 ⟨hkey, hkeys⟩⟩

theorem length_le_length_flatten {frames : List Bytes} {objects : List Value}
    (h : List.Forall₂ e.framing.Whole frames objects) : frames.length ≤ frames.flatten.length := by
  induction h with
  | nil => exact Nat.le_refl _
  | cons hwhole _ ih =>
    have hpos := List.length_pos_iff.2 hwhole.ne_nil
    rw [List.flatten_cons, List.length_append, List.length_cons]
    omega

theorem torn_of_stop (hplain : source.hasSurrogate = false) (hshort : source.length < 2 ^ 30)
    {index : Nat} (hindex : index < 10 ^ Decimal.maxDigits) {front : Bytes} {fault : RunFault}
    (h : (new e source).Stop index front fault) :
    ∃ back sendFault, back ≠ [] ∧ fault = .send index sendFault ∧
      (new e source).frameAt index = .ok (front ++ back) := by
  cases h with
  | unframed none =>
    obtain ⟨frame, hframe⟩ :=
      (new e source).exists_frameAt (Emitter.sendable_new hplain hshort e) hindex
    rw [hframe] at none
    cases none
  | torn fault split short => exact ⟨_, fault, short, rfl, split⟩

/-- The bytes are empty or a front of the frame of the index, but not all of it. -/
def Front (e : Encoding) (source : Text) (index : Nat) (front : Bytes) : Prop :=
  front = [] ∨ ∃ back, back ≠ [] ∧ (new e source).frameAt index = .ok (front ++ back)

theorem taken_of_run (hplain : source.hasSurrogate = false) (hshort : source.length < 2 ^ 30)
    (count : Nat) (outcomes : List SendOutcome) (watch : Stopwatch) {run : Emitter.Run}
    (hrun : run = (new e source).run count { outcomes } watch)
    (hlength : run.channel.taken.length ≤ 104857600) :
    ∃ m frames front,
      ((m = count ∧ ∃ stats, run.result = .ok stats) ∨
        (m < count ∧ ∃ fault, run.result = .error (.send m fault))) ∧
      List.Forall₂ (fun i frame => (new e source).frameAt i = .ok frame) (List.range m) frames ∧
      run.channel.taken = frames.flatten ++ front ∧ Front e source m front := by
  obtain ⟨m, frames, front, hframes, htaken, hend⟩ :=
    Emitter.run_spec (e := new e source) rfl count outcomes watch
  rw [← hrun] at htaken hend
  rw [Emitter.Frames, ← List.range_eq_range'] at hframes
  have hm : m < 10 ^ Decimal.maxDigits := by
    obtain ⟨objects, -, hwhole, -⟩ := whole_frames hframes
    have hframes_length : frames.length = m := by
      rw [← hframes.length_eq, List.length_range]
    have hle := length_le_length_flatten hwhole
    rw [htaken, List.length_append] at hlength
    calc m ≤ 104857600 := by omega
      _ < 10 ^ 9 := by decide
      _ ≤ 10 ^ Decimal.maxDigits := Nat.pow_le_pow_right (by decide) (by decide)
  refine ⟨m, frames, front, ?_⟩
  obtain ⟨hcount, hfront, hresult⟩ | ⟨hcount, fault, hstop, hresult⟩ := hend
  · exact ⟨.inl ⟨hcount, _, hresult⟩, hframes, htaken, .inl hfront⟩
  · obtain ⟨back, sendFault, hback, rfl, hframe⟩ := torn_of_stop hplain hshort hm hstop
    exact ⟨.inr ⟨hcount, sendFault, hresult⟩, hframes, htaken, .inr ⟨back, hback, hframe⟩⟩

theorem Front.exists_course {index : Nat} {front : Bytes}
    (h : Front e source index front) :
    ∃ next, e.framing.course e.framing.start front = some (.more next) := by
  obtain rfl | ⟨back, hback, hframe⟩ := h
  · exact ⟨_, Framing.course_nil _⟩
  · obtain ⟨v, -, hwhole⟩ := whole_frameAt hframe
    exact Framing.course_front hwhole hback

theorem consume_of_front {bufferSize m : Nat} (hbuffer : 1 ≤ bufferSize) {cuts frames : List Bytes} (hcuts : ∀ cut ∈ cuts, cut ≠ [])
    (watch : Stopwatch) {consumed : Sink.Consumption e}
    (hconsumed : consumed =
      Sink.consume { encoding := e, keep := true, bufferSize } (cuts.map .data) watch)
    (hframes : List.Forall₂ (fun i frame => (new e source).frameAt i = .ok frame)
      (List.range m) frames)
    {front : Bytes} (hflatten : cuts.flatten = frames.flatten ++ front)
    (hfront : Front e source m front) :
    List.Forall₂ (RecordAt source) (List.range m) consumed.sink.records ∧
      (∀ v, Sink.droppingLine v ∉ consumed.logs) ∧
      consumed.result =
        if front = [] then
          .ok { records := m, dropped := 0, bytesReceived := cuts.flatten.length,
                elapsed := .float watch.elapsed }
        else .error (.decode (.cut front.length)) := by
  obtain ⟨objects, hobjects, hwhole, hkeys⟩ := whole_frames hframes
  obtain ⟨next, hnext⟩ := hfront.exists_course
  have hconsume := Sink.consume_frames { encoding := e, keep := true, bufferSize } watch hbuffer
    hcuts hflatten hwhole hkeys hnext
  rw [← hconsumed, ← hobjects.length_eq, List.length_range] at hconsume
  obtain ⟨hsink, hlogs, hresult⟩ := hconsume
  have hkept : consumed.sink.records = objects := by
    rw [hsink, Sink.keepAccepted, if_pos rfl]
    exact List.filter_eq_self.2 hkeys
  exact ⟨hkept ▸ hobjects, hlogs, hresult⟩

/-- Of a run whose channel took the bytes, and of a sink that gets them cut anyhow: the sink keeps
the records that the run counts as sent and drops none. It ends well exactly if the bytes are those
of the frames of these records, and otherwise it misses the rest of the next frame. -/
theorem consume_run (e : Encoding) (source : Text) (count bufferSize : Nat)
    (outcomes : List SendOutcome) (cuts : List Bytes) (sending receiving : Stopwatch)
    {run : Emitter.Run} {consumed : Sink.Consumption e}
    (hrun : run = (new e source).run count { outcomes } sending)
    (hconsumed : consumed =
      Sink.consume { encoding := e, keep := true, bufferSize } (cuts.map .data) receiving)
    (hplain : source.hasSurrogate = false) (hshort : source.length < 2 ^ 30)
    (hbuffer : 1 ≤ bufferSize) (hcuts : ∀ cut ∈ cuts, cut ≠ [])
    (hflatten : cuts.flatten = run.channel.taken) (hlength : cuts.flatten.length ≤ 104857600) :
    ∃ m frames,
      ((m = count ∧ ∃ stats, run.result = .ok stats) ∨
        (m < count ∧ ∃ fault, run.result = .error (.send m fault))) ∧
      List.Forall₂ (fun i frame => (new e source).frameAt i = .ok frame)
        (List.range m) frames ∧
      List.Forall₂ (RecordAt source) (List.range m) consumed.sink.records ∧
      (∀ v, Sink.droppingLine v ∉ consumed.logs) ∧
      ((cuts.flatten = frames.flatten ∧ consumed.result = .ok
          { records := m, dropped := 0, bytesReceived := cuts.flatten.length,
            elapsed := .float receiving.elapsed }) ∨
        ∃ front back fault, front ≠ [] ∧ back ≠ [] ∧
          (new e source).frameAt m = .ok (front ++ back) ∧
          cuts.flatten = frames.flatten ++ front ∧ consumed.result = .error (.decode fault) ∧
          fault.message =
            "Connection closed inside a frame, " ++ Decimal.ofNat front.length
              ++ " bytes left over") := by
  obtain ⟨m, frames, front, hcounted, hframes, htaken, hfront⟩ :=
    taken_of_run hplain hshort count outcomes sending hrun (hflatten ▸ hlength)
  replace htaken := hflatten.trans htaken
  obtain ⟨hrecords, hlogs, hresult⟩ :=
    consume_of_front hbuffer hcuts receiving hconsumed hframes htaken hfront
  refine ⟨m, frames, hcounted, hframes, hrecords, hlogs, ?_⟩
  by_cases hempty : front = []
  · rw [if_pos hempty] at hresult
    rw [hempty, List.append_nil] at htaken
    exact .inl ⟨htaken, hresult⟩
  · rw [if_neg hempty] at hresult
    obtain ⟨back, hback, hframe⟩ := hfront.resolve_left hempty
    exact .inr ⟨front, back, _, hempty, hback, hframe, htaken, hresult, rfl⟩

def tornRun : Emitter.Run :=
  (new .json "ab").run (2 : Nat)
    { outcomes := [.takes 5, .takes 1000, .takes 4, .fails "reset"] }
    ⟨Binary64.zero, Binary64.zero⟩

theorem consume_tornRun :
    ∃ v, RecordAt "ab" 0 v ∧
      (Sink.consume { encoding := .json, keep := true, bufferSize := 3 }
        ((tornRun.channel.taken.map fun b => [b]).map .data)
        ⟨Binary64.zero, Binary64.zero⟩).sink.records = [v] := by
  have hlength : tornRun.channel.taken.length ≤ 104857600 := by decide
  obtain ⟨fault, hresult⟩ : ∃ fault, tornRun.result = .error (.send 1 fault) := ⟨_, rfl⟩
  obtain ⟨run, hrun⟩ : ∃ run, run = tornRun := ⟨_, rfl⟩
  rw [← hrun] at hlength hresult ⊢
  have hflatten : (run.channel.taken.map fun b => [b]).flatten = run.channel.taken :=
    List.flatMap_singleton' _
  obtain ⟨m, frames, hcounted, -, hrecords, -⟩ := consume_run .json "ab" 2 3 _
    (run.channel.taken.map fun b => [b]) _ ⟨Binary64.zero, Binary64.zero⟩ hrun rfl
    (by decide) (by decide) (by decide) (by simp) hflatten (by rw [hflatten]; exact hlength)
  have hm : m = 1 := by
    obtain ⟨-, stats, hstats⟩ | ⟨-, fault', hfault⟩ := hcounted
    · cases hresult.symm.trans hstats
    · cases hresult.symm.trans hfault
      rfl
  subst hm
  obtain ⟨v, rest, hv, hrest, hlist⟩ := List.forall₂_cons_left_iff.1 hrecords
  rw [List.forall₂_nil_left_iff.1 hrest] at hlist
  exact ⟨v, hv, hlist⟩

end Delivery

end RecordStream
