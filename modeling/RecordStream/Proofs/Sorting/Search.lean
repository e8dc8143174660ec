import RecordStream.Proofs.Except
import RecordStream.Sorting.Search

/-!
What searches ask. Their faults are those of the test, at an item of the list, and a search of a
list that is not empty has tested one of its items.
-/

namespace RecordStream.Sorting

variable {ε α : Type}

def Refuses (test : α → Except ε Bool) (l : List α) (e : ε) : Prop := ∃ x ∈ l, test x = .error e

def Answers (test : α → Except ε Bool) (l : List α) : Prop := ∃ x ∈ l, ∃ b, test x = .ok b

variable {test : α → Except ε Bool} {l : List α}

theorem yields_test {x : α} (hx : x ∈ l) :
    Yields (test x) (fun _ => Answers test l) (Refuses test l) := by
  cases h : test x with
  | ok b => exact ⟨x, hx, b, h⟩
  | error e => exact ⟨x, hx, h⟩

variable (early : Bool)

theorem bisect_refuses (bound low high : Nat) :
    Yields (bisect test early l bound low high) (fun _ => True) (Refuses test l) := by
  induction bound generalizing low high with
  | zero => trivial
  | succ bound ih =>
    unfold bisect
    dsimp only
    by_cases hlow : low < high
    · rw [if_pos hlow]
      split
      · trivial
      · next hx =>
        apply (yields_test (List.mem_of_getElem? hx)).bind
        intro b _
        split
        · exact ih _ _
        · exact ih _ _
    · rw [if_neg hlow]
      trivial

theorem bisect_answers {bound low high : Nat} (hbound : 0 < bound) (hlow : low < high)
    (hhigh : high ≤ l.length) :
    Yields (bisect test early l bound low high) (fun _ => Answers test l) (Refuses test l) := by
  obtain ⟨bound, rfl⟩ := Nat.exists_eq_add_of_lt hbound
  have hprobe : low + (if early then high - low - 1 else high - low) / 2 < l.length := by
    split <;> omega
  rw [bisect, if_pos hlow, List.getElem?_eq_getElem hprobe]
  apply (yields_test (List.getElem_mem hprobe)).bind
  intro b hb
  split
  · exact (bisect_refuses early _ _ _).mono (fun _ _ => hb) fun _ => id
  · exact (bisect_refuses early _ _ _).mono (fun _ _ => hb) fun _ => id

theorem stride_refuses (bound passed next : Nat) :
    Yields (stride test l bound passed next) (fun _ => True) (Refuses test l) := by
  induction bound generalizing passed next with
  | zero => trivial
  | succ bound ih =>
    rw [stride]
    split
    · trivial
    · next hx =>
      apply (yields_test (List.mem_of_getElem? hx)).bind
      intro b _
      split
      · exact ih _ _
      · trivial

theorem gallop_answers : Yields (gallop test early l) (fun _ => l ≠ [] → Answers test l)
    (Refuses test l) := by
  unfold gallop
  split
  · exact fun h => absurd rfl h
  · next x rest =>
    apply (yields_test List.mem_cons_self).bind
    intro b hb
    split
    · apply (stride_refuses _ _ _).bind
      rintro ⟨passed, failed⟩ -
      exact (bisect_refuses early _ _ _).mono (fun _ _ _ => hb) fun _ => id
    · exact fun _ => hb

end RecordStream.Sorting
