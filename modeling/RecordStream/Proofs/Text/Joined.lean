import RecordStream.Text.Basic

/-!
Texts put together with a separator between any two. An item is found again at the place that the
items before it give, and lines are found again at the line ends between them.
-/

namespace RecordStream.Text

variable {separator : Text} {items : List Text}

theorem join_cons {item : Text} (h : items ≠ []) :
    join separator (item :: items) = item ++ separator ++ join separator items :=
  List.intercalate_cons_of_ne_nil h

theorem mem_join {c : CodePoint} (h : c ∈ join separator items) :
    c ∈ separator ∨ ∃ item ∈ items, c ∈ item := by
  induction items with
  | nil => cases h
  | cons item items ih =>
    by_cases hnil : items = []
    · subst hnil
      rw [join, List.intercalate_singleton] at h
      exact .inr ⟨item, List.mem_cons_self, h⟩
    · rw [join_cons hnil, List.mem_append, List.mem_append] at h
      rcases h with (h | h) | h
      · exact .inr ⟨item, List.mem_cons_self, h⟩
      · exact .inl h
      · rcases ih h with hseparator | ⟨other, hother, hc⟩
        · exact .inl hseparator
        · exact .inr ⟨other, List.mem_cons_of_mem _ hother, hc⟩

variable (separator) in
theorem prefix_drop_join {size i : Nat} {item : Text} (hitem : items[i]? = some item)
    (hsize : ∀ other ∈ items.take i, other.length = size) :
    item <+: (join separator items).drop (i * (size + separator.length)) := by
  induction i generalizing items with
  | zero =>
    cases items with
    | nil => cases hitem
    | cons first items =>
      cases hitem
      rw [Nat.zero_mul, List.drop_zero]
      by_cases hnil : items = []
      · exact ⟨[], by rw [hnil, join, List.intercalate_singleton, List.append_nil]⟩
      · rw [join_cons hnil, List.append_assoc]
        exact List.prefix_append _ _
  | succ i ih =>
    cases items with
    | nil => cases hitem
    | cons first items =>
      rw [List.getElem?_cons_succ] at hitem
      rw [List.take_succ_cons, List.forall_mem_cons] at hsize
      have hnil : items ≠ [] := by
        rintro rfl
        cases hitem
      have hfront : (first ++ separator).length = size + separator.length := by
        rw [List.length_append, hsize.1]
      rw [join_cons hnil, Nat.succ_mul, Nat.add_comm, ← List.drop_drop, ← hfront,
        List.drop_left, hfront]
      exact ih hitem hsize.2

def lines (t : Text) : List Text :=
  if t = [] then [] else t.splitOn (CodePoint.ofChar '\n')

theorem join_lines (t : Text) : join "\n" t.lines = t := by
  unfold lines
  split
  · next h => rw [h]; rfl
  · exact List.intercalate_splitOn _

theorem lines_join (h : ∀ line ∈ items, line ≠ [] ∧ CodePoint.ofChar '\n' ∉ line) :
    (join "\n" items).lines = items := by
  by_cases hnil : items = []
  · subst hnil
    rfl
  · have hjoin : join "\n" items ≠ [] := by
      obtain ⟨first, rest, rfl⟩ := List.exists_cons_of_ne_nil hnil
      have hfirst := (h first List.mem_cons_self).1
      by_cases hrest : rest = []
      · rw [hrest, join, List.intercalate_singleton]
        exact hfirst
      · rw [join_cons hrest]
        simp [hfirst]
    rw [lines, if_neg hjoin]
    exact List.splitOn_intercalate _ (fun line hline => (h line hline).2) hnil

end RecordStream.Text
