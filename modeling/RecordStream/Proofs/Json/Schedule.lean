import RecordStream.Proofs.Framing.Schedule
import RecordStream.Proofs.Json.Line

/-!
Schedules of a decoder of JSON lines. Whatever the order of feeding, taking and draining, the
outcomes are those of the lines of the stream, each line once and in order, also behind faults.
-/

namespace RecordStream.Json

open Decoder

def lines (stream : Bytes) : List Bytes := (stream.splitOn 0x0A).dropLast

def unended (stream : Bytes) : Bytes := (stream.splitOn 0x0A).getLast (List.splitOn_ne_nil _ _)

/-- What one line gives: nothing if it is blank, else its object or a fault. -/
def lineOutcomes (line : Bytes) : List (Outcome framing) :=
  if line.all isBlankByte then []
  else
    match readLine line with
    | .ok v => [.object v]
    | .error cause => [.fault ({ line, cause } : Fault)]

theorem lines_of_not_mem {line : Bytes} (h : 0x0A ∉ line) : lines line = [] := by
  rw [lines, List.splitOn_eq_singleton h]
  rfl

theorem lines_append {line : Bytes} (h : 0x0A ∉ line) (rest : Bytes) :
    lines (line ++ 0x0A :: rest) = line :: lines rest := by
  rw [lines, List.splitOn_append_cons_self_of_not_mem h,
    List.dropLast_cons_of_ne_nil (List.splitOn_ne_nil _ _)]
  rfl

theorem unended_of_not_mem {line : Bytes} (h : 0x0A ∉ line) : unended line = line := by
  simp [unended, List.splitOn_eq_singleton h]

theorem unended_append {line : Bytes} (h : 0x0A ∉ line) (rest : Bytes) :
    unended (line ++ 0x0A :: rest) = unended rest := by
  simp only [unended, List.splitOn_append_cons_self_of_not_mem h]
  exact List.getLast_cons (List.splitOn_ne_nil _ _)

theorem step_end (s : framing.State) :
    (framing.step s 0x0A = .blank ∧ lineOutcomes (lineOf s) = []) ∨
    (∃ v, framing.step s 0x0A = .object v ∧ lineOutcomes (lineOf s) = [.object v]) ∨
    ∃ fault, framing.step s 0x0A = .refused fault ∧ lineOutcomes (lineOf s) = [.fault fault] := by
  rw [step_lineEnd]
  unfold finishLine lineOutcomes
  split_ifs with hblank
  · exact .inl ⟨rfl, rfl⟩
  · cases readLine (lineOf s) with
    | ok v => exact .inr (.inl ⟨v, rfl, rfl⟩)
    | error cause => exact .inr (.inr ⟨_, rfl, rfl⟩)

/-! What a reading does. -/

def held (d : Decoder framing) : Bytes := lineOf d.state ++ d.unread

@[simp] theorem held_feed (d : Decoder framing) (chunk : Bytes) :
    held (d.feed chunk) = held d ++ chunk :=
  (List.append_assoc ..).symm

structure Sound (d : Decoder framing) : Prop where
  no_end : 0x0A ∉ lineOf d.state
  unfinished : d.unfinished = (lineOf d.state).length

theorem sound_start (consumed : Nat) (unread : Bytes) :
    Sound ⟨framing.start, 0, consumed, unread⟩ :=
  ⟨List.not_mem_nil, rfl⟩

/-- The outcomes of the bytes before a reading are those of the reading and then those of the
bytes after it, whatever comes behind. What stands behind the last line end does not change. -/
structure Splits (before : Decoder framing) (outcomes : List (Outcome framing))
    (after : Decoder framing) : Prop where
  sound : Sound after
  outcomes : ∀ more, (lines (held before ++ more)).flatMap lineOutcomes =
    outcomes ++ (lines (held after ++ more)).flatMap lineOutcomes
  unended : ∀ more, unended (held before ++ more) = unended (held after ++ more)

theorem Sound.feed {d : Decoder framing} (h : Sound d) (chunk : Bytes) : Sound (d.feed chunk) :=
  ⟨h.no_end, h.unfinished⟩

theorem Splits.feed {before after : Decoder framing} {outcomes : List (Outcome framing)}
    (h : Splits before outcomes after) (chunk : Bytes) :
    Splits (before.feed chunk) outcomes (after.feed chunk) where
  sound := h.sound.feed chunk
  outcomes more := by
    simpa using h.outcomes (chunk ++ more)
  unended more := by
    simpa using h.unended (chunk ++ more)

theorem Splits.refl {d : Decoder framing} (h : Sound d) : Splits d [] d :=
  ⟨h, fun _ => rfl, fun _ => rfl⟩

theorem Splits.trans {d₁ d₂ d₃ : Decoder framing} {front back : List (Outcome framing)}
    (h : Splits d₁ front d₂) (h' : Splits d₂ back d₃) : Splits d₁ (front ++ back) d₃ where
  sound := h'.sound
  outcomes more := by
    rw [h.outcomes, h'.outcomes, List.append_assoc]
  unended more := by
    rw [h.unended, h'.unended]

section

variable {s next : framing.State} {unfinished consumed : Nat} {rest : Bytes}

private theorem Splits.more {b : UInt8} (hb : b ≠ 0x0A) (hnext : lineOf next = lineOf s ++ [b])
    (h : Sound ⟨s, unfinished, consumed, b :: rest⟩) :
    Splits ⟨s, unfinished, consumed, b :: rest⟩ [] ⟨next, unfinished + 1, consumed, rest⟩ := by
  have hheld : held ⟨next, unfinished + 1, consumed, rest⟩ =
      held ⟨s, unfinished, consumed, b :: rest⟩ := by
    simp [held, hnext]
  have hunfinished := h.unfinished
  refine ⟨⟨?_, ?_⟩, fun more => by rw [hheld, List.nil_append], fun more => by rw [hheld]⟩
  · simpa [hnext, hb.symm] using h.no_end
  · simpa [hnext] using hunfinished

private theorem Splits.line (h : Sound ⟨s, unfinished, consumed, 0x0A :: rest⟩) :
    Splits ⟨s, unfinished, consumed, 0x0A :: rest⟩ (lineOutcomes (lineOf s))
      ⟨framing.start, 0, consumed + unfinished + 1, rest⟩ := by
  have hno_end : 0x0A ∉ lineOf s := h.no_end
  refine ⟨sound_start _ _, fun more => ?_, fun more => ?_⟩
  · simp [held, lines_append hno_end]
  · simp [held, unended_append hno_end]

end

theorem splits_take (limit : Nat) {d : Decoder framing} (h : Sound d) :
    Splits d (d.take limit).outcomes (d.take limit).decoder := by
  obtain ⟨s, unfinished, consumed, unread⟩ := d
  induction unread generalizing limit s unfinished consumed with
  | nil => simpa using Splits.refl h
  | cons b rest ih =>
    cases limit with
    | zero => simpa using Splits.refl h
    | succ limit =>
      rw [take_cons]
      by_cases hb : b = 0x0A
      · subst hb
        have hline := Splits.line h
        obtain ⟨hstep, hout⟩ | ⟨v, hstep, hout⟩ | ⟨fault, hstep, hout⟩ := step_end s
        · rw [hstep]
          rw [hout] at hline
          exact hline.trans (ih (limit + 1) _ _ _ hline.sound)
        · rw [hstep]
          rw [hout] at hline
          simpa using hline.trans (ih limit _ _ _ hline.sound)
        · rw [hstep]
          rw [hout] at hline
          simpa using hline
      · obtain ⟨next, hstep, hnext⟩ := step_of_ne s hb
        rw [hstep]
        have hmore := Splits.more hb hnext h
        exact hmore.trans (ih (limit + 1) _ _ _ hmore.sound)

theorem splits_resume {d : Decoder framing} (h : Sound d) (uses : List Use) :
    Splits (d.feed (Use.fed uses)) (d.resume uses).1 (d.resume uses).2 := by
  induction uses generalizing d with
  | nil => simpa [Use.fed, resume] using Splits.refl h
  | cons u rest ih =>
    rw [Use.fed_cons, resume]
    cases u with
    | feed chunk => simpa [Decoder.use, Use.chunk] using ih (h.feed chunk)
    | take limit =>
      have hu := splits_take limit h
      simpa [Decoder.use, Use.chunk] using (hu.feed (Use.fed rest)).trans (ih hu.sound)
    | drain =>
      have hu : Splits d d.drain.outcomes d.drain.decoder := splits_take d.unread.length h
      simpa [Decoder.use, Use.chunk] using (hu.feed (Use.fed rest)).trans (ih hu.sound)

theorem unread_lt_of_fault (limit : Nat) (d : Decoder framing)
    (h : (d.take limit).fault ≠ none) :
    (d.take limit).decoder.unread.length < d.unread.length := by
  obtain ⟨s, unfinished, consumed, unread⟩ := d
  induction unread generalizing limit s unfinished consumed with
  | nil => simp at h
  | cons b rest ih =>
    cases limit with
    | zero => simp at h
    | succ limit =>
      rw [take_cons] at h ⊢
      by_cases hb : b = 0x0A
      · subst hb
        obtain ⟨hstep, -⟩ | ⟨v, hstep, -⟩ | ⟨fault, hstep, -⟩ := step_end s
        · rw [hstep] at h ⊢
          exact Nat.lt_succ_of_lt (ih _ _ _ _ h)
        · rw [hstep] at h ⊢
          exact Nat.lt_succ_of_lt (ih _ _ _ _ h)
        · rw [hstep]
          exact Nat.lt_succ_self _
      · obtain ⟨next, hstep, -⟩ := step_of_ne s hb
        rw [hstep] at h ⊢
        exact Nat.lt_succ_of_lt (ih _ _ _ _ h)

theorem exists_drained (d : Decoder framing) :
    ∃ again, (d.resume (List.replicate again .drain)).2.drain.fault = none := by
  induction hn : d.unread.length using Nat.strongRecOn generalizing d with
  | ind n ih =>
    by_cases h : d.drain.fault = none
    · exact ⟨0, h⟩
    · have hless : d.drain.decoder.unread.length < n := hn ▸ unread_lt_of_fault _ d h
      obtain ⟨again, hagain⟩ := ih _ hless d.drain.decoder rfl
      exact ⟨again + 1, hagain⟩

theorem Splits.drained {stream : Bytes} {outcomes : List (Outcome framing)}
    {after : Decoder framing} (h : Splits ((new framing).feed stream) outcomes after)
    (hunread : after.unread = []) :
    outcomes = (lines stream).flatMap lineOutcomes ∧
      after.pending = (Json.unended stream).length := by
  have hheld : held after = lineOf after.state := by
    rw [held, hunread, List.append_nil]
  have hstream : held ((new framing).feed stream) = stream := rfl
  have houtcomes := h.outcomes []
  have hunended := h.unended []
  rw [List.append_nil, List.append_nil, hheld, hstream] at houtcomes hunended
  rw [lines_of_not_mem h.sound.no_end] at houtcomes
  rw [unended_of_not_mem h.sound.no_end] at hunended
  refine ⟨by simpa using houtcomes.symm, ?_⟩
  rw [pending, hunread, hunended, h.sound.unfinished]
  rfl

/-- After a schedule whose last drain ends without a fault the outcomes are those of the lines of
the stream, in order, and what stands behind the last line end is pending. Draining again after
every fault leads there from anywhere. -/
theorem schedule_splits_lines (uses : List Use) :
    (((new framing).resume uses).2.drain.fault = none →
      ((new framing).resume (uses ++ [.drain])).1 =
          (lines (Use.fed uses)).flatMap lineOutcomes ∧
        ((new framing).resume (uses ++ [.drain])).2.pending = (unended (Use.fed uses)).length) ∧
    ∃ again, ((new framing).resume (uses ++ List.replicate again .drain)).2.drain.fault = none := by
  refine ⟨fun hfault => ?_, ?_⟩
  · have hsplits := splits_resume (sound_start 0 []) (uses ++ [.drain])
    rw [Use.fed_append, show Use.fed [.drain] = [] from rfl, List.append_nil] at hsplits
    apply hsplits.drained
    rw [resume_append]
    exact unread_of_drain _ hfault
  · obtain ⟨again, hagain⟩ := exists_drained ((new framing).resume uses).2
    exact ⟨again, by rwa [resume_append]⟩

theorem schedule_splits_lines_mixed :
    let uses : List Use := [.feed [0x31, 0x0A, 0x78], .take 1, .feed [0x0A, 0x20, 0x0A, 0x32],
      .drain, .feed [0x0A, 0x33]]
    ((new framing).resume uses).2.drain.fault = none ∧
      ((new framing).resume (uses ++ [.drain])).1 =
        [.object (.int 1),
          .fault ({ line := [0x78], cause := .syntaxFault (.complaint .value 0) } : Fault),
          .object (.int 2)] ∧
      ((new framing).resume (uses ++ [.drain])).2.pending = 1 := by
  intro uses
  have hfault : ((new framing).resume uses).2.drain.fault = none := by rfl
  have h := (schedule_splits_lines uses).1 hfault
  exact ⟨hfault, h⟩

end RecordStream.Json
