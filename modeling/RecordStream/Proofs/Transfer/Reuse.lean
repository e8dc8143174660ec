import RecordStream.Proofs.Transfer.Sending

/-!
Errands that one emitter does one after the other. The buffer of the codec is empty behind every
run, however the run ended, so that each run is what it would be on an emitter of its own.
-/

namespace RecordStream

namespace Emitter

/-- The records to be sent, and what the channel and the clock do meanwhile. -/
structure Errand where
  source : Given Text
  count : Int
  outcomes : List SendOutcome
  watch : Stopwatch

def perform (e : Emitter) (q : Errand) : Run :=
  { e with source := q.source }.run q.count { outcomes := q.outcomes } q.watch

def performAll (e : Emitter) : List Errand → List Run
  | [] => []
  | q :: rest =>
    let run := e.perform q
    run :: run.emitter.performAll rest

section

variable {e : Emitter} (hnew : e.codec.buffer = [])

include hnew

theorem codec_sendRecords (index bytesSent : Nat) {channel : Channel}
    (hfree : channel.holdsOffers = false) (count : Nat) :
    (e.sendRecords index bytesSent channel count).codec = e.codec := by
  induction count generalizing index bytesSent channel with
  | zero => rfl
  | succ count ih =>
    have hcodec := (sendRecord_spec hnew index hfree).1
    rw [sendRecords]
    cases hresult : (e.sendRecord index channel).result with
    | error fault => simpa [hresult] using hcodec
    | ok sent =>
      simp only [hcodec]
      exact ih _ _ ((holdsOffers_sendRecord index channel).trans hfree)

theorem emitter_run (count : Int) {channel : Channel} (hfree : channel.holdsOffers = false)
    (watch : Stopwatch) :
    (e.run count channel watch).emitter = e := by
  have hcodec := codec_sendRecords hnew 0 0 hfree count.toNat
  by_cases hneg : count < 0
  · rw [run, if_pos hneg]
  · rw [run, if_neg hneg]
    dsimp only
    rw [hcodec]

end

theorem codec_perform {e : Emitter} (hnew : e.codec.buffer = []) (q : Errand) :
    (e.perform q).emitter.codec = e.codec := by
  have hemitter : (e.perform q).emitter = { e with source := q.source } :=
    emitter_run (e := { e with source := q.source }) hnew _ (Channel.new_lets_go q.outcomes) _
  rw [hemitter]

/-- What a run shows outside is what the errand alone would show, and the buffer is empty. -/
structure StandsAlone (encoding : Encoding) (q : Errand) (run : Run) : Prop where
  result : run.result = (perform { codec := { encoding } } q).result
  offered : run.channel.offered = (perform { codec := { encoding } } q).channel.offered
  taken : run.channel.taken = (perform { codec := { encoding } } q).channel.taken
  buffer : run.emitter.codec.buffer = []

theorem standsAlone_perform {e : Emitter} {encoding : Encoding} (h : e.codec = { encoding })
    (q : Errand) : StandsAlone encoding q (e.perform q) := by
  have hnew : e.codec.buffer = [] := by rw [h]
  have halone : e.perform q = perform { codec := { encoding } } q := by
    unfold perform
    rw [h]
  constructor
  · rw [halone]
  · rw [halone]
  · rw [halone]
  · rw [codec_perform hnew, hnew]

/-- The history of an emitter shows in none of its runs. -/
theorem performAll_stands_alone (encoding : Encoding) (source : Given Text)
    (errands : List Errand) :
    List.Forall₂ (StandsAlone encoding) errands
      (performAll { codec := { encoding }, source } errands) := by
  have hrun (e : Emitter) (h : e.codec = { encoding }) :
      List.Forall₂ (StandsAlone encoding) errands (e.performAll errands) := by
    induction errands generalizing e with
    | nil => exact .nil
    | cons q rest ih =>
      have hnew : e.codec.buffer = [] := by rw [h]
      apply List.Forall₂.cons
      · exact standsAlone_perform h q
      · apply ih
        rw [codec_perform hnew, h]
  exact hrun _ rfl

end Emitter

end RecordStream
