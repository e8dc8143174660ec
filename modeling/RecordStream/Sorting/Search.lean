/-!
Searching a list in which the items that pass a test stand in front of those that do not. The
test may fail, and which items it sees is a part of what the searches promise: on a list without
such an order they still end, and their answer follows from the probes alone.
-/

namespace RecordStream.Sorting

variable {ε α : Type}

/-- A comparison that may fail: does the left item come before the right one? -/
abbrev Comparison (ε α : Type) := α → α → Except ε Bool

/-- Halves the stretch from `low` up to `high` until nothing is left of it. The probe of a stretch
of even length is the first item of its second half, or the last item of its first half if
`early` says so. The stretch has at most `bound` items. -/
def bisect (test : α → Except ε Bool) (early : Bool) (l : List α) :
    (bound low high : Nat) → Except ε Nat
  | 0, low, _ => .ok low
  | bound + 1, low, high =>
    let probe := low + (if early then high - low - 1 else high - low) / 2
    if low < high then
      match l[probe]? with
      | none => .ok low
      | some x => do
        if ← test x then bisect test early l bound (probe + 1) high
        else bisect test early l bound low probe
    else .ok low

/-- Probes items at ever larger distances until one does not pass: the last place that passed,
and the first one that did not or the length of the list. -/
def stride (test : α → Except ε Bool) (l : List α) :
    (bound passed next : Nat) → Except ε (Nat × Nat)
  | 0, passed, next => .ok (passed, next)
  | bound + 1, passed, next =>
    match l[next]? with
    | none => .ok (passed, l.length)
    | some x => do
      if ← test x then stride test l bound next (2 * next + 1) else return (passed, next)

/-- How many items in front pass the test, found in strides and then by halving. -/
def gallop (test : α → Except ε Bool) (early : Bool) (l : List α) : Except ε Nat :=
  match l with
  | [] => .ok 0
  | x :: _ => do
    if ← test x then
      let (passed, failed) ← stride test l l.length 0 1
      bisect test early l (failed - passed) (passed + 1) failed
    else return 0

end RecordStream.Sorting
