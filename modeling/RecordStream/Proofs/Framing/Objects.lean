import RecordStream.Proofs.Framing.Reading

/-!
What every object of a reading comes from. An invariant that each byte keeps holds along a course,
and the objects of a reading are those of whole frames that lie in its bytes one behind the other.
-/

namespace RecordStream

variable {f : Framing}

/-- What one more byte does, if an invariant of the states and the property of the objects are to
hold behind so many bytes. -/
def Progress.Meets {State Fault : Type} (I : State → Nat → Prop) (O : Value → Nat → Prop)
    (n : Nat) : Progress State Fault → Prop
  | .more s => I s n
  | .object v => O v n
  | _ => True

namespace Framing

variable {I : f.State → Nat → Prop} {O : Value → Nat → Prop}

theorem meets_course (hstep : ∀ s n b, I s n → (f.step s b).Meets I O (n + 1)) {s : f.State}
    {n : Nat} (hs : I s n) {bytes : Bytes} {p : Progress f.State f.Fault}
    (h : f.course s bytes = some p) : p.Meets I O (n + bytes.length) := by
  induction bytes generalizing s n with
  | nil =>
    cases h
    exact hs
  | cons b rest ih =>
    have hb := hstep s n b hs
    unfold course at h
    split at h
    · next next hnext =>
      rw [hnext] at hb
      have hrest := ih hb h
      rwa [Nat.add_assoc, Nat.add_comm 1] at hrest
    · next hlast =>
      simp only [Option.ite_none_right_eq_some, List.isEmpty_iff] at h
      obtain ⟨rfl, h⟩ := h
      cases h
      exact hb

theorem Whole.meets (hstep : ∀ s n b, I s n → (f.step s b).Meets I O (n + 1)) (hstart : I f.start 0)
    {frame : Bytes} {v : Value} (h : f.Whole frame v) : O v frame.length := by
  have hmeets := meets_course hstep hstart h
  rwa [Nat.zero_add] at hmeets

end Framing

namespace Decoder

theorem exists_frames_of_drain {s : f.State} {front : Bytes}
    (h : f.course f.start front = some (.more s)) (unfinished consumed : Nat) (unread : Bytes) :
    ∃ frames, List.Forall₂ f.Whole frames (drain ⟨s, unfinished, consumed, unread⟩).objects ∧
      frames.flatten.Sublist (front ++ unread) := by
  induction unread generalizing s front unfinished consumed with
  | nil => exact ⟨[], .nil, List.nil_sublist _⟩
  | cons b rest ih =>
    have hcourse : f.course f.start (front ++ [b]) = some (f.step s b) := by
      rw [Framing.course_append [b] h, Framing.course_singleton]
    have hskip {frames : List Bytes} (hsub : frames.flatten.Sublist ([] ++ rest)) :
        frames.flatten.Sublist (front ++ b :: rest) :=
      hsub.trans ((List.sublist_cons_self b rest).trans (List.sublist_append_right front _))
    rw [drain_cons]
    cases hb : f.step s b with
    | more next =>
      rw [hb] at hcourse
      obtain ⟨frames, hframes, hsub⟩ := ih hcourse (unfinished + 1) consumed
      rw [List.append_assoc] at hsub
      exact ⟨frames, hframes, hsub⟩
    | object v =>
      rw [hb] at hcourse
      obtain ⟨frames, hframes, hsub⟩ := ih (Framing.course_nil f.start) 0 (consumed + unfinished + 1)
      refine ⟨(front ++ [b]) :: frames, .cons hcourse hframes, ?_⟩
      rw [List.flatten_cons, List.append_assoc]
      exact (List.Sublist.refl front).append (hsub.cons_cons b)
    | blank =>
      obtain ⟨frames, hframes, hsub⟩ := ih (Framing.course_nil f.start) 0 (consumed + unfinished + 1)
      exact ⟨frames, hframes, hskip hsub⟩
    | refused fault => exact ⟨[], .nil, List.nil_sublist _⟩
    | broken fault => exact ⟨[], .nil, List.nil_sublist _⟩

end Decoder

end RecordStream
