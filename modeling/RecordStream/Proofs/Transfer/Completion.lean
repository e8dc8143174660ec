import RecordStream.Proofs.Binary64.Range
import RecordStream.Proofs.Json.Size
import RecordStream.Proofs.MessagePack.Size
import RecordStream.Proofs.Transfer.Emission

/-!
A job whose calls all go through is carried out to its end. The frames of a run are too short, and
its count is too small, for the statistics to leave the range of double precision.
-/

namespace RecordStream

namespace Emitter

variable {e : Emitter} {count : Nat} {script : List SendOutcome}

theorem run_whole (hnew : e.codec.buffer = []) (hsend : e.Sendable)
    (hcount : count ≤ 10 ^ Decimal.maxDigits) (hscript : ∀ o ∈ script, o.stops = false)
    (watch : Stopwatch) :
    ∃ frames, e.Frames 0 count frames ∧
      (e.run count { outcomes := script } watch).channel.taken = frames.flatten ∧
      (e.run count { outcomes := script } watch).result =
        .ok { messages := count, bytesSent := frames.flatten.length,
              elapsed := .float watch.elapsed } := by
  obtain ⟨frames, hframes, ⟨htaken, hresult⟩ | ⟨k, fault, hresult, -⟩⟩ :=
    e.run_sent hnew (.inl hsend) hcount script watch rfl
  · exact ⟨frames, hframes, htaken, hresult⟩
  · have hended := e.ended_run hnew count (Channel.new_lets_go script) watch
    rw [hresult] at hended
    obtain ⟨calls, o, -, -, ho, hstops⟩ := hended
    rw [hscript o (List.mem_of_getElem? ho)] at hstops
    cases hstops

variable {encoding : Encoding} {source : Text}

theorem length_frameAt_lt (hsource : source.length < 2 ^ 30) {index : Nat} {frame : Bytes}
    (h : (new encoding source).frameAt index = .ok frame) : frame.length < 2 ^ 40 := by
  obtain ⟨r, hrecord, hframe⟩ := frameAt_eq_ok_iff.1 h
  obtain ⟨hfits, rfl⟩ := Record.forIndex_eq_ok_iff.1 hrecord
  have hprefix : Record.messagePrefix.length = 13 := rfl
  have hdigits := Decimal.length_ofInt_natCast_le hfits
  cases encoding with
  | msgpack =>
    have hid : MessagePack.leastSize (.int 42) = 1 := by decide
    have hchild : MessagePack.leastSize (.text "item") = 5 := by decide
    have hname := MessagePack.leastSize_text_le source
    have hmessage := MessagePack.leastSize_text_le (Record.messagePrefix ++ Decimal.ofInt index)
    rw [List.length_append] at hmessage
    rw [MessagePack.length_frame hframe, MessagePack.leastSize_toValue]
    dsimp only [new, Given.toValue]
    omega
  | json =>
    have hid : (Decimal.ofInt 42).length = 2 := by decide
    have hchild : (Json.string "item").length = 6 := by decide
    have hname := Json.length_string_le source
    have hmessage := Json.length_string_le (Record.messagePrefix ++ Decimal.ofInt index)
    have hline := Json.length_frame_le hframe
    rw [List.length_append] at hmessage
    rw [Json.length_object] at hline
    dsimp only [new, Given.text] at hline
    omega

theorem length_flatten_le (hsource : source.length < 2 ^ 30) {frames : List Bytes}
    (hframes : (new encoding source).Frames 0 count frames) :
    frames.flatten.length ≤ count * 2 ^ 40 := by
  rw [← hframes.length]
  rw [Frames] at hframes
  generalize List.range' 0 count = indices at hframes
  induction hframes with
  | nil => simp
  | cons hframe _ ih =>
    have hlength := length_frameAt_lt hsource hframe
    rw [List.flatten_cons, List.length_append, List.length_cons]
    omega

end Emitter

namespace Emission

theorem exists_rateLine {s : EmitStats} {x : Binary64} (helapsed : s.elapsed = .float x)
    (hmessages : s.messages.natAbs < 2 ^ 960) (hbytes : s.bytesSent.natAbs < 2 ^ 960) :
    ∃ line, rateLine s = .ok line := by
  have hrate : ∃ rate, s.rate = .ok rate := by
    unfold EmitStats.rate
    rw [helapsed]
    split_ifs
    · exact Number.exists_divide hmessages x
    · exact ⟨_, rfl⟩
  have hthroughput : ∃ throughput, s.throughput = .ok throughput := by
    obtain ⟨megabytes, hmegabytes⟩ := Number.exists_divInt hbytes (d := EmitStats.bytesInMegabyte)
      (by decide)
    unfold EmitStats.throughput
    rw [helapsed, hmegabytes]
    split_ifs <;> exact ⟨_, rfl⟩
  obtain ⟨rate, hrate⟩ := hrate
  obtain ⟨throughput, hthroughput⟩ := hthroughput
  rw [rateLine, hrate, hthroughput]
  exact ⟨_, rfl⟩

theorem exists_rateLine_of_sent {encoding : Encoding} {source : Text} {count : Int}
    {script : List SendOutcome} {watch : Stopwatch} {stats : EmitStats} {channel : Channel}
    (hcount : count.natAbs < 2 ^ 63) (hsource : source.length < 2 ^ 30)
    (h : (Emitter.new encoding source).WayOut count script watch (.ok stats) channel) :
    ∃ line, rateLine stats = .ok line := by
  cases h with
  | sent natural all taken =>
    subst natural
    have hlength := Emitter.length_flatten_le hsource all
    exact exists_rateLine rfl (by dsimp only; omega) (by dsimp only; omega)

theorem emit_whole {job : Job} {source : Text} {count : Nat} {script : List SendOutcome}
    (hencoding : job.encoding = .msgpack) (hjob : job.source = .value source)
    (hplain : source.hasSurrogate = false) (hsource : source.length < 2 ^ 30)
    (hcount : job.count = count) (hlt : count < 2 ^ 63)
    (hport : job.target.port.dialled = .ok job.target.port)
    (hscript : ∀ o ∈ script, o.stops = false) (own : Endpoint) (watch : Stopwatch) :
    ∃ frames stats, (Emitter.new .msgpack source).Frames 0 count frames ∧
      (emit job (.connected own) { outcomes := script } watch).result = .ok stats ∧
      (emit job (.connected own) { outcomes := script } watch).channel.taken = frames.flatten := by
  have hemitter : emitterFor job = Emitter.new .msgpack source := by
    rw [emitterFor, hencoding, hjob, Emitter.new]
  have hfits : Decimal.fits count := Decimal.fits_of_natAbs_lt (by omega)
  obtain ⟨frames, hframes, htaken, hresult⟩ := (Emitter.new .msgpack source).run_whole rfl
    (Emitter.sendable_new hplain hsource .msgpack) (Decimal.fits_natCast_iff.1 hfits).le hscript watch
  have hway := Emitter.wayOut_run (e := Emitter.new .msgpack source) rfl hfits script watch rfl
  rw [hresult] at hway
  obtain ⟨line, hline⟩ := exists_rateLine_of_sent (by omega) hsource hway
  refine ⟨frames, ⟨count, frames.flatten.length, .float watch.elapsed⟩, hframes, ?_⟩
  rw [emit_connected hport (hcount ▸ hfits), hemitter, hcount, hresult]
  simp only [conclude, hline, htaken, and_self]

end Emission

end RecordStream
