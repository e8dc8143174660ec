import RecordStream.Power
import RecordStream.Sorting.Search

/-!
Runs: stretches of a list that are in order as they stand, or would be if they were turned round.
A run that is too short is filled up with the items behind it, each put in its place by halving.
-/

namespace RecordStream.Sorting

variable {ε α : Type}

/-- Follows a run as long as each item goes with the one before it: the run, its last item
first, and the items behind it. -/
def follow (goesWith : Comparison ε α) (done : List α) (last : α) :
    List α → Except ε (List α × List α)
  | [] => .ok (last :: done, [])
  | x :: rest => do
    if ← goesWith x last then follow goesWith (last :: done) x rest
    else return (last :: done, x :: rest)

/-- The first run of a list, in order, and the items behind it. Items that are equal keep their
places, so only a strictly falling run is turned round. -/
def firstRun (less : Comparison ε α) : List α → Except ε (List α × List α)
  | a :: b :: rest => do
    if ← less b a then follow less [a] b rest
    else
      let (run, rest) ← follow (fun x last => return !(← less x last)) [a] b rest
      return (run.reverse, rest)
  | l => .ok (l, [])

def insert (less : Comparison ε α) (run : List α) (x : α) : Except ε (List α) := do
  let place ← bisect (fun y => return !(← less x y)) false run run.length 0 run.length
  return run.take place ++ x :: run.drop place

/-- The least length of a run in a list of so many items: all of them if they are few, else from
32 to 64 of them, so that little less than a power of two of runs makes up the list. -/
def leastRun (size : Nat) : Nat :=
  let scale := 2 ^ (Nat.log2 size - 5)
  (size + scale - 1) / scale

def nextRun (less : Comparison ε α) (least : Nat) (l : List α) : Except ε (List α × List α) := do
  let (run, rest) ← firstRun less l
  let wanted := least - run.length
  return (← (rest.take wanted).foldlM (insert less) run, rest.drop wanted)

end RecordStream.Sorting
