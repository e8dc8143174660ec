import RecordStream.Sorting.Merge
import RecordStream.Sorting.Run

/-!
Sorting by a comparison that may fail. The list is taken run by run, and neighbouring runs are
merged so that the merges are nearly balanced: the boundary between two runs has a power, which
is small near the middle of the list, and boundaries of greater power go first. Equal items keep
their order. The first comparison that fails ends the sorting with its fault.
-/

namespace RecordStream.Sorting

variable {ε α : Type}

/-- The first binary place from `place` on in which the fractions `a / n` and `b / n` differ. -/
def differingPlace (a b n : Nat) : (bound place : Nat) → Nat
  | 0, place => place
  | bound + 1, place =>
    if a * 2 ^ place / n = b * 2 ^ place / n then differingPlace a b n bound (place + 1) else place

/-- The power of the boundary between two runs, of which the left one begins at `start`, in a
list of `size` items: where the middles of the two runs, as fractions of the list, part. -/
def boundaryPower (size start left right : Nat) : Nat :=
  differingPlace (2 * start + left) (2 * (start + left) + right) (2 * size) size 1

/-- The last run met, the runs before it with the powers of the boundaries behind them, the last
one first, and the patience for the next merge. -/
structure Stack (α : Type) where
  top : List α
  below : List (Nat × List α)
  patience : Nat

namespace Stack

/-- Merges the last runs as long as the boundaries between them have a greater power. -/
def settle (less : Comparison ε α) (power : Nat) (top : List α) (patience : Nat) :
    List (Nat × List α) → Except ε (Stack α)
  | [] => .ok ⟨top, [], patience⟩
  | (p, run) :: below =>
    if power < p then do
      let (merged, patience) ← merge less run top patience
      settle less power merged patience below
    else .ok ⟨top, (p, run) :: below, patience⟩

def push (less : Comparison ε α) (size position : Nat) (s : Stack α) (run : List α) :
    Except ε (Stack α) := do
  let power := boundaryPower size (position - s.top.length) s.top.length run.length
  let s ← settle less power s.top s.patience s.below
  return ⟨run, (power, s.top) :: s.below, s.patience⟩

end Stack

/-- Merges all runs, of which the last one comes first: the last two, or the two before it if
that merge is the smaller one. There are at most `bound` runs. -/
def collapse (less : Comparison ε α) :
    (bound patience : Nat) → List (List α) → Except ε (List α)
  | bound + 1, patience, top :: second :: third :: rest => do
    if third.length < top.length then
      let (merged, patience) ← merge less third second patience
      collapse less bound patience (top :: merged :: rest)
    else
      let (merged, patience) ← merge less second top patience
      collapse less bound patience (merged :: third :: rest)
  | bound + 1, patience, [top, second] => do
    let (merged, patience) ← merge less second top patience
    collapse less bound patience [merged]
  | _, _, runs => .ok runs.reverse.flatten

/-- Takes the rest of a list of `size` items run by run, then merges what is left. Every run has
an item, so the items left bound the runs. -/
def sortRuns (less : Comparison ε α) (size : Nat) :
    (bound : Nat) → Stack α → List α → Except ε (List α)
  | bound + 1, s, x :: rest => do
    let (run, rest') ← nextRun less (leastRun size) (x :: rest)
    let s ← s.push less size (size - (x :: rest).length) run
    sortRuns less size bound s rest'
  | _, s, _ => collapse less (s.below.length + 1) s.patience (s.top :: s.below.map (·.2))

def sort (less : Comparison ε α) (l : List α) : Except ε (List α) := do
  let (run, rest) ← nextRun less (leastRun l.length) l
  sortRuns less l.length rest.length ⟨run, [], Merging.worthwhile⟩ rest

end RecordStream.Sorting
