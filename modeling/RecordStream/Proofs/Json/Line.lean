import RecordStream.Proofs.Framing.Course
import RecordStream.Wire.Json.Line

/-! What bytes do to the reader of lines: they make the line longer up to the line end, where the
line is read as a whole. -/

namespace RecordStream.Json

open Framing

def lineOf (s : framing.State) : Bytes :=
  let line : Bytes := s
  line.reverse

@[simp] theorem lineOf_start : lineOf framing.start = [] := rfl

theorem step_of_ne (s : framing.State) {b : UInt8} (hb : b ≠ 0x0A) :
    ∃ next, framing.step s b = .more next ∧ lineOf next = lineOf s ++ [b] := by
  refine ⟨(b :: s : Bytes), ?_, List.reverse_cons⟩
  exact if_neg hb

theorem step_lineEnd (s : framing.State) : framing.step s 0x0A = finishLine (lineOf s) := by
  change step s 0x0A = _
  simp only [step, ↓reduceIte]
  rfl

theorem course_line {line : Bytes} (h : 0x0A ∉ line) (s : framing.State) :
    framing.course s (line ++ [0x0A]) = some (finishLine (lineOf s ++ line)) := by
  induction line generalizing s with
  | nil =>
    rw [List.nil_append, course_singleton, step_lineEnd, List.append_nil]
    rfl
  | cons b line ih =>
    obtain ⟨hb, hline⟩ := not_or.1 (mt List.mem_cons.2 h)
    obtain ⟨next, hstep, hnext⟩ := step_of_ne s (Ne.symm hb)
    rw [List.cons_append, course_cons _ hstep, ih hline, hnext, List.append_assoc,
      List.singleton_append]

end RecordStream.Json
