import RecordStream.Proofs.Sorting.Merge
import RecordStream.Sorting.Powersort

/-!
What sorting tells about its list. The items of the result are those of the list; and if only items
of one kind can be compared, sorting succeeds only on a list of one kind, because in the end all runs
were merged. Sorting fails only with the fault of a comparison of two items.
-/

namespace RecordStream.Sorting

variable {ε α κ : Type}

def Stack.runs (s : Stack α) : List (List α) := s.top :: s.below.map (·.2)

structure Holds (kind : α → κ) (runs : List (List α)) (l : List α) : Prop where
  isRun : ∀ run ∈ runs, IsRun kind run
  perm : runs.flatten.Perm l

section

variable {kind : α → κ} {less : Comparison ε α} {runs : List (List α)} {run second : List α}
  {l : List α}

theorem Holds.subset (h : Holds kind runs l) (hrun : run ∈ runs) : run ⊆ l := by
  intro x hx
  apply h.perm.subset
  exact List.mem_flatten_of_mem hrun hx

theorem Holds.cons (h : Holds kind runs l) (hrun : IsRun kind run) :
    Holds kind (run :: runs) (run ++ l) :=
  ⟨List.forall_mem_cons.2 ⟨hrun, h.isRun⟩, h.perm.append_left run⟩

theorem Holds.reorder (h : Holds kind runs l) {runs' : List (List α)} (hruns : runs'.Perm runs) :
    Holds kind runs' l :=
  ⟨fun run hrun => h.isRun run (hruns.subset hrun), hruns.flatten.trans h.perm⟩

theorem Holds.merged {merged : List α} (h : Holds kind (run :: second :: runs) l)
    (hmerged : IsRun kind merged) (hperm : merged.Perm (second ++ run)) :
    Holds kind (merged :: runs) l := by
  obtain ⟨hisRun, hall⟩ := h
  simp only [List.forall_mem_cons] at hisRun
  refine ⟨List.forall_mem_cons.2 ⟨hmerged, hisRun.2.2⟩, ?_⟩
  calc (merged ++ runs.flatten).Perm (second ++ run ++ runs.flatten) := hperm.append_right _
    List.Perm _ (run ++ second ++ runs.flatten) := List.perm_append_comm.append_right _
    _ = (run :: second :: runs).flatten := by simp
    List.Perm _ l := hall

theorem Holds.merge_yields (hless : Discerns kind less) (h : Holds kind (run :: second :: runs) l)
    (patience : Nat) :
    Yields (merge less second run patience) (fun p => Holds kind (p.1 :: runs) l)
      (Clashes less l) := by
  have hisRun := h.isRun
  simp only [List.forall_mem_cons] at hisRun
  apply (Sorting.merge_yields hless hisRun.2.1 hisRun.1 patience).mono
  · rintro ⟨merged, patience⟩ ⟨hperm, hmerged⟩
    exact h.merged hmerged hperm
  · intro e he
    apply he.mono
    exact List.append_subset.2 ⟨h.subset (by simp), h.subset (by simp)⟩

theorem settle_yields (hless : Discerns kind less) (power : Nat) {top : List α} (patience : Nat)
    {below : List (Nat × List α)} (h : Holds kind (top :: below.map (·.2)) l) :
    Yields (Stack.settle less power top patience below) (fun s => Holds kind s.runs l)
      (Clashes less l) := by
  induction below generalizing top patience with
  | nil => exact h
  | cons boundary below ih =>
    obtain ⟨p, run⟩ := boundary
    unfold Stack.settle
    split
    · apply (h.merge_yields hless patience).bind
      rintro ⟨merged, patience⟩ hmerged
      exact ih patience hmerged
    · exact h

theorem push_yields (hless : Discerns kind less) (size position : Nat) {s : Stack α}
    (h : Holds kind s.runs l) (hrun : IsRun kind run) :
    Yields (s.push less size position run) (fun s => Holds kind s.runs (run ++ l))
      (Clashes less l) := by
  apply (settle_yields hless _ s.patience h).bind
  intro s hs
  exact hs.cons hrun

theorem collapse_singleton (less : Comparison ε α) (bound patience : Nat) (run : List α) :
    collapse less bound patience [run] = .ok run := by
  cases bound <;> simp [collapse]

theorem collapse_yields (hless : Discerns kind less) {bound : Nat} (patience : Nat)
    (hne : runs ≠ []) (hbound : runs.length ≤ bound + 1) (h : Holds kind runs l) :
    Yields (collapse less bound patience runs) (fun sorted => sorted.Perm l ∧ OneKind kind l)
      (Clashes less l) := by
  have hsingle {bound patience : Nat} {run : List α} (h : Holds kind [run] l) :
      Yields (collapse less bound patience [run])
        (fun sorted => sorted.Perm l ∧ OneKind kind l) (Clashes less l) := by
    have hperm : run.Perm l := by simpa using h.perm
    rw [collapse_singleton, Yields.yields_ok]
    exact ⟨hperm, (h.isRun run (List.mem_singleton_self _)).oneKind.subset hperm.symm.subset⟩
  induction bound generalizing runs patience with
  | zero =>
    obtain ⟨run, rfl⟩ := List.length_eq_one_iff.1
      (Nat.le_antisymm hbound (List.length_pos_iff.2 hne))
    exact hsingle h
  | succ bound ih =>
    match runs with
    | [run] => exact hsingle h
    | [top, second] =>
      unfold collapse
      apply (h.merge_yields hless patience).bind
      rintro ⟨merged, patience⟩ hmerged
      exact ih patience (List.cons_ne_nil _ _) (by simp) hmerged
    | top :: second :: third :: rest =>
      simp only [List.length_cons] at hbound
      unfold collapse
      split
      · -- The run on top stays, so the two below it come to the front for a moment.
        have hfront : Holds kind (second :: third :: top :: rest) l :=
          h.reorder (List.perm_middle : ([second, third] ++ top :: rest).Perm _)
        apply (hfront.merge_yields hless patience).bind
        rintro ⟨merged, patience⟩ hmerged
        exact ih patience (List.cons_ne_nil _ _) (by simpa using hbound)
          (hmerged.reorder (.swap _ _ _))
      · apply (h.merge_yields hless patience).bind
        rintro ⟨merged, patience⟩ hmerged
        exact ih patience (List.cons_ne_nil _ _) (by simpa using hbound) hmerged

theorem sortRuns_nil (less : Comparison ε α) (size bound : Nat) (s : Stack α) :
    sortRuns less size bound s [] = collapse less (s.below.length + 1) s.patience s.runs := by
  cases bound <;> rfl

theorem sortRuns_yields (hless : Discerns kind less) (size : Nat) {bound : Nat} {s : Stack α}
    {done rest : List α} (hbound : rest.length ≤ bound) (h : Holds kind s.runs done) :
    Yields (sortRuns less size bound s rest)
      (fun sorted => sorted.Perm (done ++ rest) ∧ OneKind kind (done ++ rest))
      (Clashes less (done ++ rest)) := by
  induction bound generalizing s done rest with
  | zero =>
    rw [List.length_eq_zero_iff.1 (Nat.le_zero.1 hbound), List.append_nil, sortRuns_nil]
    exact collapse_yields hless _ (List.cons_ne_nil _ _) (by simp [Stack.runs]) h
  | succ bound ih =>
    cases rest with
    | nil =>
      rw [List.append_nil, sortRuns_nil]
      exact collapse_yields hless _ (List.cons_ne_nil _ _) (by simp [Stack.runs]) h
    | cons x rest =>
      unfold sortRuns
      apply (nextRun_yields hless _ (List.cons_ne_nil x rest)).bind_mono
      · rintro ⟨run, rest'⟩ ⟨hall, hrun⟩
        dsimp only at hall hrun
        have hlength : rest'.length ≤ bound := by
          have hsum := hall.length_eq
          have hpos := List.length_pos_iff.2 hrun.ne_nil
          simp only [List.length_append, List.length_cons] at hsum hbound
          omega
        have hdone : (run ++ done ++ rest').Perm (done ++ x :: rest) := by
          calc (run ++ done ++ rest').Perm (done ++ run ++ rest') :=
                List.perm_append_comm.append_right _
            _ = done ++ (run ++ rest') := List.append_assoc _ _ _
            List.Perm _ (done ++ x :: rest) := hall.append_left done
        apply (push_yields hless _ _ h hrun).bind_mono
        · intro s hs
          apply (ih hlength hs).mono
          · rintro sorted ⟨hsorted, hkind⟩
            exact ⟨hsorted.trans hdone, hkind.subset hdone.symm.subset⟩
          · intro e he
            exact he.mono hdone.subset
        · intro e he
          exact he.mono (List.subset_append_left _ _)
      · intro e he
        exact he.mono (List.subset_append_right _ _)

/-- Sorting succeeds on lists of one kind only, and then keeps the items. -/
theorem sort_yields (hless : Discerns kind less) (l : List α) :
    Yields (sort less l) (fun sorted => sorted.Perm l ∧ OneKind kind l) (Clashes less l) := by
  by_cases hl : l = []
  · subst hl
    simp [sort, nextRun, firstRun, sortRuns, collapse, OneKind, bind, Except.bind, pure, Except.pure]
  · unfold sort
    apply (nextRun_yields hless _ hl).bind
    rintro ⟨run, rest⟩ ⟨hall, hrun⟩
    have hstart : Holds kind (Stack.runs ⟨run, [], Merging.worthwhile⟩) run :=
      ⟨by simpa [Stack.runs] using hrun, by simp [Stack.runs]⟩
    apply (sortRuns_yields hless _ (Nat.le_refl _) hstart).mono
    · rintro sorted ⟨hsorted, hkind⟩
      exact ⟨hsorted.trans hall, hkind.subset hall.symm.subset⟩
    · intro e he
      exact he.mono hall.subset

end

end RecordStream.Sorting
