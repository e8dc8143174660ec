/-!
Lists cut into pieces of equal length, of which the last one may be shorter. Each piece but the
last is as long as asked for, and the pieces in a row are the list.
-/

namespace RecordStream

variable {α : Type}

/-- The pieces of a list behind those in `done`, which holds the last one first. The list is no
longer than `bound`. -/
def piecesOnto (size : Nat) (done : List (List α)) : (bound : Nat) → List α → List (List α)
  | 0, _ => done.reverse
  | bound + 1, l =>
    if l.isEmpty then done.reverse
    else piecesOnto size (l.take size :: done) bound (l.drop size)

/-- The list in pieces of `size`; there are no pieces of size zero. -/
def pieces (size : Nat) (l : List α) : List (List α) :=
  if size = 0 then [] else piecesOnto size [] l.length l

/-- Neither the bound nor the pieces before matter. -/
theorem piecesOnto_eq {size : Nat} (hs : size ≠ 0) (done : List (List α)) (bound : Nat)
    (l : List α) (hl : l.length ≤ bound) :
    piecesOnto size done bound l = done.reverse ++ pieces size l := by
  induction hn : l.length using Nat.strongRecOn generalizing done bound l with
  | ind n ih =>
    subst hn
    cases l with
    | nil => cases bound <;> simp [piecesOnto, pieces]
    | cons x rest =>
      have shorter : ((x :: rest).drop size).length < (x :: rest).length := by
        simp only [List.length_drop, List.length_cons]
        omega
      obtain ⟨bound, rfl⟩ := Nat.exists_eq_succ_of_ne_zero (n := bound) (by
        simp only [List.length_cons] at hl
        omega)
      simp only [pieces, if_neg hs, piecesOnto, List.length_cons, List.isEmpty_cons,
        Bool.false_eq_true, if_false] at shorter hl ⊢
      rw [ih _ shorter _ _ _ (by omega) rfl, ih _ shorter _ _ _ (by omega) rfl]
      simp

@[simp] theorem pieces_nil (size : Nat) : pieces size ([] : List α) = [] := by
  simp [pieces, piecesOnto]

theorem pieces_of_ne_nil {size : Nat} {l : List α} (hs : size ≠ 0) (hl : l ≠ []) :
    pieces size l = l.take size :: pieces size (l.drop size) := by
  cases l with
  | nil => contradiction
  | cons x rest =>
    rw [pieces, if_neg hs, List.length_cons, piecesOnto, if_neg (by simp), piecesOnto_eq hs]
    · rfl
    · simp only [List.length_drop, List.length_cons]
      omega

theorem flatten_pieces {size : Nat} (hs : size ≠ 0) (l : List α) : (pieces size l).flatten = l := by
  induction hn : l.length using Nat.strongRecOn generalizing l with
  | ind n ih =>
    cases l with
    | nil => simp
    | cons x rest =>
      rw [pieces_of_ne_nil hs (by simp), List.flatten_cons, ih _ _ _ rfl, List.take_append_drop]
      subst hn
      simp only [List.length_drop, List.length_cons]
      omega

/-- The piece of each index stands as far from the front as the pieces before it are long. -/
theorem getElem?_pieces {size : Nat} (hs : size ≠ 0) (l : List α) (i : Nat) :
    (pieces size l)[i]? =
      if i * size < l.length then some ((l.drop (i * size)).take size) else none := by
  induction i generalizing l with
  | zero => cases l <;> simp [pieces_of_ne_nil hs]
  | succ i ih =>
    cases l with
    | nil => simp
    | cons x rest =>
      have hstep : (i + 1) * size = size + i * size := by rw [Nat.succ_mul, Nat.add_comm]
      have hiff : i * size < (x :: rest).length - size ↔ size + i * size < (x :: rest).length := by
        omega
      rw [pieces_of_ne_nil hs (by simp), List.getElem?_cons_succ, ih, List.length_drop,
        List.drop_drop, hstep]
      simp only [hiff]

theorem length_pieces {size : Nat} (hs : size ≠ 0) (l : List α) :
    (pieces size l).length = (l.length + size - 1) / size := by
  induction hn : l.length using Nat.strongRecOn generalizing l with
  | ind n ih =>
    subst hn
    cases l with
    | nil => simp [Nat.div_eq_of_lt (Nat.sub_one_lt hs)]
    | cons x rest =>
      have shorter : ((x :: rest).drop size).length < (x :: rest).length := by
        simp only [List.length_drop, List.length_cons]
        omega
      rw [pieces_of_ne_nil hs (by simp), List.length_cons, ih _ shorter _ rfl, List.length_drop,
        List.length_cons]
      by_cases hlong : size ≤ rest.length + 1
      · rw [show rest.length + 1 - size + size - 1 = rest.length by omega,
          show rest.length + 1 + size - 1 = rest.length + size by omega,
          Nat.add_div_right _ (Nat.pos_of_ne_zero hs)]
      · rw [show rest.length + 1 - size + size - 1 = size - 1 by omega,
          Nat.div_eq_of_lt (by omega),
          show rest.length + 1 + size - 1 = rest.length + size by omega,
          Nat.add_div_right _ (Nat.pos_of_ne_zero hs), Nat.div_eq_of_lt (by omega)]

end RecordStream
