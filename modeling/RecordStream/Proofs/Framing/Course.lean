import RecordStream.Wire.Codec

/-!
The course of bytes through a framing: from a state every byte but the last leaves the frame open,
and the last one does what it does. Courses in a row are a course, so a frame is followed part by
part, whatever stands around the parts.
-/

namespace RecordStream.Framing

variable {f : Framing}

/-- What the bytes lead to, unless a byte before the last one ends the frame. -/
def course (f : Framing) (s : f.State) : Bytes → Option (Progress f.State f.Fault)
  | [] => some (.more s)
  | b :: rest =>
    match f.step s b with
    | .more s => course f s rest
    | p => if rest.isEmpty then some p else none

/-- The bytes are one whole frame and hold the value. -/
def Whole (f : Framing) (frame : Bytes) (v : Value) : Prop :=
  f.course f.start frame = some (.object v)

@[simp] theorem course_nil (s : f.State) : f.course s [] = some (.more s) := rfl

@[simp] theorem course_singleton (s : f.State) (b : UInt8) :
    f.course s [b] = some (f.step s b) := by
  cases h : f.step s b <;> simp [course, h]

theorem course_append {s s' : f.State} {front : Bytes} (back : Bytes)
    (h : f.course s front = some (.more s')) :
    f.course s (front ++ back) = f.course s' back := by
  induction front generalizing s with
  | nil =>
    cases h
    rfl
  | cons b rest ih =>
    rw [List.cons_append]
    cases hb : f.step s b with
    | more next =>
      simp only [course, hb] at h ⊢
      exact ih h
    | _ => simp [course, hb] at h

theorem course_cons {s s' : f.State} {b : UInt8} (rest : Bytes) (h : f.step s b = .more s') :
    f.course s (b :: rest) = f.course s' rest := by
  simp [course, h]

theorem course_front {s : f.State} {front back : Bytes} {p : Progress f.State f.Fault}
    (h : f.course s (front ++ back) = some p) (hback : back ≠ []) :
    ∃ s', f.course s front = some (.more s') := by
  induction front generalizing s with
  | nil => exact ⟨s, rfl⟩
  | cons b rest ih =>
    rw [List.cons_append] at h
    cases hb : f.step s b with
    | more next =>
      simp only [course, hb] at h ⊢
      exact ih h
    | _ => simp [course, hb, hback] at h

theorem Whole.ne_nil {frame : Bytes} {v : Value} (h : f.Whole frame v) : frame ≠ [] := by
  rintro rfl
  simp [Whole] at h

end RecordStream.Framing
