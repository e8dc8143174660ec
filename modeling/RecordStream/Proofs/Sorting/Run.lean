import Mathlib.Data.List.Perm.Basic
import RecordStream.Proofs.Sorting.Search
import RecordStream.Sorting.Run

/-!
What comparing tells about a run. Where only items of one kind can be compared, a run is of one
kind, as each of its items was compared with another one; and a fault is one of comparing two items.
-/

namespace RecordStream.Sorting

variable {ε α κ : Type}

def Clashes (less : Comparison ε α) (l : List α) (e : ε) : Prop :=
  ∃ a ∈ l, ∃ b ∈ l, less a b = .error e

theorem Clashes.mono {less : Comparison ε α} {l l' : List α} (hl : l ⊆ l') {e : ε}
    (h : Clashes less l e) : Clashes less l' e := by
  obtain ⟨a, ha, b, hb, hless⟩ := h
  exact ⟨a, hl ha, b, hl hb, hless⟩

theorem yields_less {less : Comparison ε α} {l : List α} {a b : α} (ha : a ∈ l) (hb : b ∈ l) :
    Yields (less a b) (fun answer => less a b = .ok answer) (Clashes less l) := by
  cases h : less a b with
  | ok answer => rfl
  | error e => exact ⟨a, ha, b, hb, h⟩

theorem not_eq_ok {x : Except ε Bool} {b : Bool} (h : (do return !(← x)) = Except.ok b) :
    x = .ok !b := by
  cases x with
  | ok b' =>
    cases h
    simp
  | error e => cases h

theorem not_eq_error {x : Except ε Bool} {e : ε} (h : (do return !(← x)) = Except.error e) :
    x = .error e := by
  cases x with
  | ok b => cases h
  | error e' =>
    cases h
    rfl

def OneKind (kind : α → κ) (l : List α) : Prop := ∀ a ∈ l, ∀ b ∈ l, kind a = kind b

theorem OneKind.subset {kind : α → κ} {l l' : List α} (h : OneKind kind l') (hl : l ⊆ l') :
    OneKind kind l :=
  fun a ha b hb => h a (hl ha) b (hl hb)

structure IsRun (kind : α → κ) (l : List α) : Prop where
  ne_nil : l ≠ []
  oneKind : OneKind kind l

theorem isRun_singleton (kind : α → κ) (x : α) : IsRun kind [x] := by
  refine ⟨List.cons_ne_nil _ _, ?_⟩
  intro a ha b hb
  rw [List.mem_singleton.1 ha, List.mem_singleton.1 hb]

theorem IsRun.perm {kind : α → κ} {l l' : List α} (h : IsRun kind l) (hl : l'.Perm l) :
    IsRun kind l' := by
  refine ⟨?_, h.oneKind.subset hl.subset⟩
  rintro rfl
  exact h.ne_nil hl.symm.eq_nil

theorem IsRun.append {kind : α → κ} {x y : α} {l l' : List α} (h : IsRun kind l)
    (h' : IsRun kind l') (hx : x ∈ l) (hy : y ∈ l') (hxy : kind x = kind y) :
    IsRun kind (l ++ l') := by
  have hall : ∀ a ∈ l ++ l', kind a = kind y := by
    intro a ha
    rcases List.mem_append.1 ha with ha | ha
    · exact (h.oneKind a ha x hx).trans hxy
    · exact h'.oneKind a ha y hy
  refine ⟨List.append_ne_nil_of_left_ne_nil h.ne_nil _, ?_⟩
  intro a ha b hb
  rw [hall a ha, hall b hb]

theorem IsRun.cons {kind : α → κ} {x y : α} {l : List α} (h : IsRun kind l) (hy : y ∈ l)
    (hxy : kind x = kind y) : IsRun kind (x :: l) :=
  (isRun_singleton kind x).append h (.head _) hy hxy

/-- Only items of one kind can be compared. -/
def Discerns (kind : α → κ) (less : Comparison ε α) : Prop :=
  ∀ a b answer, less a b = .ok answer → kind a = kind b

section

variable {kind : α → κ} {less : Comparison ε α} (hless : Discerns kind less)

include hless

theorem discerns_not : Discerns kind (fun a b => do return !(← less a b)) :=
  fun a b _ h => hless a b _ (not_eq_ok h)

theorem follow_yields {done : List α} {last : α} (hdone : IsRun kind (last :: done))
    (l : List α) :
    Yields (follow less done last l)
      (fun p => p.1.reverse ++ p.2 = done.reverse ++ last :: l ∧ IsRun kind p.1)
      (Clashes less (last :: l)) := by
  induction l generalizing done last with
  | nil => exact ⟨by simp, hdone⟩
  | cons x rest ih =>
    unfold follow
    apply (yields_less (List.mem_cons_of_mem _ List.mem_cons_self) List.mem_cons_self).bind
    intro goes hgoes
    split
    · have hmore := hdone.cons List.mem_cons_self (hless x last _ hgoes)
      apply (ih hmore).mono
      · rintro ⟨run, rest'⟩ ⟨hall, hrun⟩
        exact ⟨by simpa using hall, hrun⟩
      · intro e he
        exact he.mono (List.subset_cons_self _ _)
    · exact ⟨by simp, hdone⟩

theorem firstRun_yields {l : List α} (hl : l ≠ []) :
    Yields (firstRun less l) (fun p => (p.1 ++ p.2).Perm l ∧ IsRun kind p.1) (Clashes less l) := by
  unfold firstRun
  split
  · next a b rest =>
    apply (yields_less (List.mem_cons_of_mem _ List.mem_cons_self) List.mem_cons_self).bind
    intro falls hfalls
    have hstart := (isRun_singleton kind a).cons List.mem_cons_self (hless b a _ hfalls)
    split
    · apply (follow_yields hless hstart rest).mono
      · rintro ⟨run, rest'⟩ ⟨hall, hrun⟩
        refine ⟨?_, hrun⟩
        calc (run ++ rest').Perm (run.reverse ++ rest') := run.reverse_perm.symm.append_right _
          _ = a :: b :: rest := hall
      · intro e he
        exact he.mono (List.subset_cons_self _ _)
    · apply (follow_yields (discerns_not hless) hstart rest).bind_mono
      · rintro ⟨run, rest'⟩ ⟨hall, hrun⟩
        refine ⟨?_, hrun.perm run.reverse_perm⟩
        exact .of_eq hall
      · rintro e ⟨x, hx, y, hy, h⟩
        exact ⟨x, .tail _ hx, y, .tail _ hy, not_eq_error h⟩
  · next l hshort =>
    obtain ⟨x, rest, rfl⟩ := List.exists_cons_of_ne_nil hl
    cases rest with
    | nil => exact ⟨.refl _, isRun_singleton kind x⟩
    | cons y rest => exact absurd rfl (hshort x y rest)

theorem insert_yields {run : List α} (hrun : IsRun kind run) (x : α) :
    Yields (insert less run x) (fun run' => run'.Perm (x :: run) ∧ IsRun kind run')
      (Clashes less (x :: run)) := by
  have hpos := List.length_pos_iff.2 hrun.ne_nil
  apply (bisect_answers false hpos hpos (Nat.le_refl _)).bind_mono
  · rintro place ⟨y, hy, answer, h⟩
    have hperm : (run.take place ++ x :: run.drop place).Perm (x :: run) := by
      calc (run.take place ++ x :: run.drop place).Perm (x :: (run.take place ++ run.drop place)) :=
            List.perm_middle
        _ = x :: run := by rw [List.take_append_drop]
    exact ⟨hperm, (hrun.cons hy (hless x y _ (not_eq_ok h))).perm hperm⟩
  · rintro e ⟨y, hy, h⟩
    exact ⟨x, .head _, y, .tail _ hy, not_eq_error h⟩

theorem insertAll_yields {run : List α} (hrun : IsRun kind run) (items : List α) :
    Yields (items.foldlM (insert less) run)
      (fun run' => run'.Perm (items ++ run) ∧ IsRun kind run') (Clashes less (items ++ run)) := by
  induction items generalizing run with
  | nil => exact ⟨.refl _, hrun⟩
  | cons x items ih =>
    rw [List.foldlM_cons]
    have hmiddle : (items ++ x :: run).Perm (x :: items ++ run) := List.perm_middle
    apply (insert_yields hless hrun x).bind_mono
    · rintro run' ⟨hperm, hrun'⟩
      have hall := (hperm.append_left items).trans hmiddle
      apply (ih hrun').mono
      · rintro run'' ⟨hperm', hrun''⟩
        exact ⟨hperm'.trans hall, hrun''⟩
      · intro e he
        exact he.mono hall.subset
    · intro e he
      exact he.mono (List.Subset.trans (List.subset_append_right _ _) hmiddle.subset)

theorem nextRun_yields (least : Nat) {l : List α} (hl : l ≠ []) :
    Yields (nextRun less least l) (fun p => (p.1 ++ p.2).Perm l ∧ IsRun kind p.1)
      (Clashes less l) := by
  apply (firstRun_yields hless hl).bind
  rintro ⟨run, rest⟩ ⟨hall, hrun⟩
  have hsplit (n : Nat) : (rest.take n ++ run ++ rest.drop n).Perm l := by
    calc (rest.take n ++ run ++ rest.drop n).Perm (run ++ rest.take n ++ rest.drop n) :=
          List.perm_append_comm.append_right _
      _ = run ++ rest := by rw [List.append_assoc, List.take_append_drop]
      List.Perm _ l := hall
  apply (insertAll_yields hless hrun _).bind_mono
  · rintro run' ⟨hperm, hrun'⟩
    exact ⟨(hperm.append_right _).trans (hsplit _), hrun'⟩
  · intro e he
    exact he.mono (List.Subset.trans (List.subset_append_left _ _) (hsplit _).subset)

end

end RecordStream.Sorting
