import RecordStream.Sorting.Search

/-!
Two neighbouring runs merged into one. Items are compared one by one until one run wins several
times in a row; then the places up to which it wins are searched for. The more often that pays,
the sooner it is tried again. The shorter run is the one that is set aside, so runs are merged
from their ends if the right one is shorter.
-/

namespace RecordStream.Sorting

variable {ε α : Type}

/-- A merge on its way: the items merged, the last one first, and what is left of the run set
aside and of the other one. -/
structure Merging (α : Type) where
  merged : List α
  aside : List α
  other : List α

namespace Merging

/-- Nothing is left to be compared. The last item of the run set aside belongs at the end. -/
def isOver (m : Merging α) : Bool :=
  match m.other, m.aside with
  | [], _ | _, [] | _, [_] => true
  | _, _ => false

def result (m : Merging α) : List α := m.merged.reverse ++ m.other ++ m.aside

def takeAside (count : Nat) (m : Merging α) : Merging α :=
  if m.isOver then m
  else
    { m with merged := (m.aside.take count).reverse ++ m.merged, aside := m.aside.drop count }

def takeOther (count : Nat) (m : Merging α) : Merging α :=
  if m.isOver then m
  else
    { m with merged := (m.other.take count).reverse ++ m.merged, other := m.other.drop count }

variable (goesFirst : Comparison ε α) (early : Bool)

/-- Takes the items of the run set aside that the next item of the other run does not go before;
how many they are. -/
def gallopAside (m : Merging α) : Except ε (Merging α × Nat) :=
  match m.isOver, m.other with
  | false, y :: _ => do
    let count ← gallop (fun x => return !(← goesFirst y x)) early m.aside
    return (m.takeAside count, count)
  | _, _ => .ok (m, 0)

/-- Takes the items of the other run that go before the next item of the run set aside. -/
def gallopOther (m : Merging α) : Except ε (Merging α × Nat) :=
  match m.isOver, m.aside with
  | false, x :: _ => do
    let count ← gallop (fun y => goesFirst y x) early m.other
    return (m.takeOther count, count)
  | _, _ => .ok (m, 0)

/-- One search in each run; the greater number of items found. The left run is searched first. -/
def gallopBoth (m : Merging α) : Except ε (Merging α × Nat) :=
  if early then do
    let (m, others) ← m.gallopOther goesFirst early
    let (m, asides) ← (m.takeAside 1).gallopAside goesFirst early
    return (m.takeOther 1, max others asides)
  else do
    let (m, asides) ← m.gallopAside goesFirst early
    let (m, others) ← (m.takeOther 1).gallopOther goesFirst early
    return (m.takeAside 1, max others asides)

/-- How items are found: one by one, with the numbers of wins in a row so far, or by searching. -/
inductive Mode
  | stepping (asideWins otherWins : Nat)
  | galloping

/-- How many items a search has to find so that searching goes on. -/
def worthwhile : Nat := 7

/-- Ends the merge. `patience` is how many wins in a row lead to searching; it is a part of the
result, as the next merge starts with it. Every round takes an item, so the items left bound the
rounds. -/
def run : (bound : Nat) → Mode → (patience : Nat) → Merging α → Except ε (List α × Nat)
  | 0, _, patience, m => .ok (m.result, patience)
  | bound + 1, .stepping asideWins otherWins, patience, m =>
    match m.aside, m.other with
    | x :: _, y :: _ => do
      let first ← goesFirst y x
      let m := if first then m.takeOther 1 else m.takeAside 1
      let (asideWins, otherWins) := if first then (0, otherWins + 1) else (asideWins + 1, 0)
      if m.isOver then return (m.result, patience)
      else if patience ≤ max asideWins otherWins then run bound .galloping (patience + 1) m
      else run bound (.stepping asideWins otherWins) patience m
    | _, _ => .ok (m.result, patience)
  | bound + 1, .galloping, patience, m => do
    let patience := max (patience - 1) 1
    let (m, found) ← m.gallopBoth goesFirst early
    if m.isOver then return (m.result, patience)
    else if worthwhile ≤ found then run bound .galloping patience m
    else run bound (.stepping 0 0) (patience + 1) m

def start (aside other : List α) (patience : Nat) : Except ε (List α × Nat) :=
  let m : Merging α := takeOther 1 ⟨[], aside, other⟩
  if m.isOver then .ok (m.result, patience)
  else m.run goesFirst early (aside.length + other.length) (.stepping 0 0) patience

end Merging

/-- The parts of two runs that have to be merged: what stays in front, the two parts, and what
stays behind. -/
def overlap (less : Comparison ε α) (left right : List α) :
    Except ε (List α × List α × List α × List α) :=
  match right with
  | [] => .ok (left, [], [], [])
  | first :: _ => do
    let kept ← gallop (fun x => return !(← less first x)) false left
    match (left.drop kept).getLast? with
    | none => return (left, [], right, [])
    | some last =>
      let beyond ← gallop (fun y => return !(← less y last)) true right.reverse
      let overlapping := right.length - beyond
      return (left.take kept, left.drop kept, right.take overlapping, right.drop overlapping)

def merge (less : Comparison ε α) (left right : List α) (patience : Nat) :
    Except ε (List α × Nat) := do
  let (front, left, right, back) ← overlap less left right
  if left.isEmpty ∨ right.isEmpty then return (front ++ left ++ right ++ back, patience)
  else if left.length ≤ right.length then
    let (middle, patience) ← Merging.start less false left right patience
    return (front ++ middle ++ back, patience)
  else
    let (middle, patience) ←
      Merging.start (fun y x => less x y) true right.reverse left.reverse patience
    return (front ++ middle.reverse ++ back, patience)

end RecordStream.Sorting
