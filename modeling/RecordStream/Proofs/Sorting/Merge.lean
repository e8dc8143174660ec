import RecordStream.Proofs.Sorting.Run
import RecordStream.Sorting.Merge

/-!
Merging keeps the items, and it compares the two runs before anything else. So where only items of
one kind can be compared, the merge of two runs is again a run.
-/

namespace RecordStream.Sorting

variable {ε α κ : Type}

namespace Merging

variable {m : Merging α} {l : List α}

theorem takeAside_perm (count : Nat) (m : Merging α) :
    (m.takeAside count).result.Perm m.result := by
  unfold takeAside
  split
  · exact .refl _
  · have hmove : (m.aside.take count ++ m.other ++ m.aside.drop count).Perm
        (m.other ++ m.aside) := by
      calc (m.aside.take count ++ m.other ++ m.aside.drop count).Perm
            (m.other ++ m.aside.take count ++ m.aside.drop count) :=
          List.perm_append_comm.append_right _
        _ = m.other ++ m.aside := by rw [List.append_assoc, List.take_append_drop]
    have hall := hmove.append_left m.merged.reverse
    simpa [result] using hall

theorem takeOther_perm (count : Nat) (m : Merging α) :
    (m.takeOther count).result.Perm m.result := by
  unfold takeOther
  split
  · exact .refl _
  · apply List.Perm.of_eq
    simp only [result, List.reverse_append, List.reverse_reverse, List.append_assoc]
    rw [← List.append_assoc (m.other.take count), List.take_append_drop]

theorem aside_subset (h : m.result.Perm l) : m.aside ⊆ l :=
  List.Subset.trans (List.subset_append_right _ _) h.subset

theorem other_subset (h : m.result.Perm l) : m.other ⊆ l :=
  List.Subset.trans (List.subset_append_right _ _)
    (List.Subset.trans (List.subset_append_left _ _) h.subset)

variable {goesFirst : Comparison ε α} (early : Bool)

theorem gallopAside_yields (h : m.result.Perm l) :
    Yields (m.gallopAside goesFirst early) (fun p => p.1.result.Perm l) (Clashes goesFirst l) := by
  unfold gallopAside
  split
  · next y rest _ hother =>
    have hy : y ∈ l := other_subset h (by simp [hother])
    apply (gallop_answers early).bind_mono
    · intro count _
      exact (takeAside_perm count m).trans h
    · rintro e ⟨x, hx, hrefused⟩
      exact ⟨y, hy, x, aside_subset h hx, not_eq_error hrefused⟩
  · exact h

theorem gallopOther_yields (h : m.result.Perm l) :
    Yields (m.gallopOther goesFirst early) (fun p => p.1.result.Perm l) (Clashes goesFirst l) := by
  unfold gallopOther
  split
  · next x rest _ haside =>
    have hx : x ∈ l := aside_subset h (by simp [haside])
    apply (gallop_answers early).bind_mono
    · intro count _
      exact (takeOther_perm count m).trans h
    · rintro e ⟨y, hy, hrefused⟩
      exact ⟨y, other_subset h hy, x, hx, hrefused⟩
  · exact h

theorem gallopBoth_yields (h : m.result.Perm l) :
    Yields (m.gallopBoth goesFirst early) (fun p => p.1.result.Perm l) (Clashes goesFirst l) := by
  unfold gallopBoth
  split
  · apply (gallopOther_yields early h).bind
    rintro ⟨m, others⟩ hm
    apply (gallopAside_yields early ((takeAside_perm 1 m).trans hm)).bind
    rintro ⟨m, asides⟩ hm
    exact (takeOther_perm 1 m).trans hm
  · apply (gallopAside_yields early h).bind
    rintro ⟨m, asides⟩ hm
    apply (gallopOther_yields early ((takeOther_perm 1 m).trans hm)).bind
    rintro ⟨m, others⟩ hm
    exact (takeAside_perm 1 m).trans hm

theorem run_yields (bound : Nat) (mode : Mode) (patience : Nat) (h : m.result.Perm l) :
    Yields (m.run goesFirst early bound mode patience) (fun p => p.1.Perm l)
      (Clashes goesFirst l) := by
  induction bound generalizing mode patience m with
  | zero => exact h
  | succ bound ih =>
    cases mode with
    | stepping asideWins otherWins =>
      unfold run
      split
      · next x _ y _ haside hother =>
        have hx : x ∈ l := aside_subset h (by simp [haside])
        have hy : y ∈ l := other_subset h (by simp [hother])
        have hnext {m : Merging α} (hm : m.result.Perm l) (asideWins otherWins : Nat) :
            Yields (if m.isOver then pure (m.result, patience)
              else if patience ≤ max asideWins otherWins then
                m.run goesFirst early bound .galloping (patience + 1)
              else m.run goesFirst early bound (.stepping asideWins otherWins) patience)
              (fun p => p.1.Perm l) (Clashes goesFirst l) := by
          split
          · exact hm
          split
          · exact ih _ _ hm
          · exact ih _ _ hm
        apply (yields_less hy hx).bind
        intro first _
        cases first with
        | true => exact hnext ((takeOther_perm 1 m).trans h) 0 (otherWins + 1)
        | false => exact hnext ((takeAside_perm 1 m).trans h) (asideWins + 1) 0
      · exact h
    | galloping =>
      unfold run
      apply (gallopBoth_yields early h).bind
      rintro ⟨m, found⟩ hm
      dsimp only
      split
      · exact hm
      split
      · exact ih _ _ hm
      · exact ih _ _ hm

theorem start_yields (aside other : List α) (patience : Nat) :
    Yields (start goesFirst early aside other patience) (fun p => p.1.Perm (other ++ aside))
      (Clashes goesFirst (other ++ aside)) := by
  have hstart : (takeOther 1 ⟨[], aside, other⟩).result.Perm (other ++ aside) :=
    takeOther_perm 1 _
  unfold start
  dsimp only
  split
  · exact hstart
  · exact run_yields early _ _ _ hstart

end Merging

variable {kind : α → κ} {less : Comparison ε α}

theorem overlap_yields (left : List α) {right : List α} (hright : right ≠ []) :
    Yields (overlap less left right)
      (fun p => p.1 ++ p.2.1 ++ p.2.2.1 ++ p.2.2.2 = left ++ right ∧
        (left ≠ [] → ∃ x ∈ left, ∃ y ∈ right, ∃ answer, less y x = .ok answer))
      (Clashes less (left ++ right)) := by
  unfold overlap
  split
  · exact absurd rfl hright
  · next first rest =>
    apply (gallop_answers false).bind_mono
    · intro kept hkept
      have hcompared (h : left ≠ []) :
          ∃ x ∈ left, ∃ y ∈ first :: rest, ∃ answer, less y x = .ok answer := by
        obtain ⟨x, hx, answer, hanswer⟩ := hkept h
        exact ⟨x, hx, first, .head _, _, not_eq_ok hanswer⟩
      split
      · exact ⟨by simp, hcompared⟩
      · next last hlast =>
        have hmem : last ∈ left := List.mem_of_mem_drop (List.mem_of_getLast? hlast)
        apply (gallop_answers true).bind_mono
        · intro beyond _
          refine ⟨?_, hcompared⟩
          rw [List.take_append_drop, List.append_assoc, List.take_append_drop]
        · rintro e ⟨y, hy, h⟩
          exact ⟨y, List.mem_append_right _ (List.mem_reverse.1 hy), last,
            List.mem_append_left _ hmem, not_eq_error h⟩
    · rintro e ⟨x, hx, h⟩
      exact ⟨first, List.mem_append_right _ (.head _), x, List.mem_append_left _ hx, not_eq_error h⟩

theorem merge_yields (hless : Discerns kind less) {left right : List α} (hleft : IsRun kind left)
    (hright : IsRun kind right) (patience : Nat) :
    Yields (merge less left right patience)
      (fun p => p.1.Perm (left ++ right) ∧ IsRun kind p.1) (Clashes less (left ++ right)) := by
  unfold merge
  apply (overlap_yields left hright.ne_nil).bind
  rintro ⟨front, left', right', back⟩ ⟨hall, hcompared⟩
  dsimp only at hall ⊢
  obtain ⟨x, hx, y, hy, answer, hanswer⟩ := hcompared hleft.ne_nil
  have hrun : IsRun kind (left ++ right) :=
    hleft.append hright hx hy (hless y x answer hanswer).symm
  have hbetween {middle : List α} (h : middle.Perm (left' ++ right')) :
      (front ++ middle ++ back).Perm (left ++ right) ∧ IsRun kind (front ++ middle ++ back) := by
    have hperm : (front ++ middle ++ back).Perm (left ++ right) := by
      calc (front ++ middle ++ back).Perm (front ++ (left' ++ right') ++ back) :=
            (h.append_left front).append_right back
        _ = left ++ right := by rw [← hall, List.append_assoc front left']
    exact ⟨hperm, hrun.perm hperm⟩
  have hmem {a : α} (h : a ∈ left' ∨ a ∈ right') : a ∈ left ++ right := by
    rw [← hall]
    simp only [List.mem_append]
    tauto
  split
  · exact ⟨.of_eq hall, hrun.perm (.of_eq hall)⟩
  split
  · apply (Merging.start_yields false left' right' patience).bind_mono
    · rintro ⟨middle, patience⟩ hmiddle
      exact hbetween (hmiddle.trans List.perm_append_comm)
    · rintro e ⟨a, ha, b, hb, h⟩
      exact ⟨a, hmem (List.mem_append.1 ha).symm, b, hmem (List.mem_append.1 hb).symm, h⟩
  · -- The runs are turned round here, so the comparison takes its items the other way round.
    apply (Merging.start_yields true right'.reverse left'.reverse patience).bind_mono
    · rintro ⟨middle, patience⟩ hmiddle
      apply hbetween
      calc middle.reverse.Perm middle := middle.reverse_perm
        List.Perm _ (left'.reverse ++ right'.reverse) := hmiddle
        List.Perm _ (left' ++ right') := left'.reverse_perm.append right'.reverse_perm
    · rintro e ⟨a, ha, b, hb, h⟩
      simp only [List.mem_append, List.mem_reverse] at ha hb
      exact ⟨b, hmem hb, a, hmem ha, h⟩

end RecordStream.Sorting
