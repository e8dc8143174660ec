import RecordStream.Sorting.Powersort
import RecordStream.Value.Basic

/-! The order of keys, which exists only between keys of one sort. -/

namespace RecordStream.Value

/-- Lexicographic order of lists of numbers. -/
def lexLess : List Nat → List Nat → Bool
  | _, [] => false
  | [], _ :: _ => true
  | a :: as, b :: bs => a < b || (a == b && lexLess as bs)

def textLess (s t : Text) : Bool := lexLess (s.map (·.val)) (t.map (·.val))

def bytesLess (s t : Bytes) : Bool := lexLess (s.map (·.toNat)) (t.map (·.toNat))

def numberLess (a b : Value) : Bool :=
  let infinite (v : Value) : Option Bool :=
    match v with
    | .float x => if x.isInfinite then some x.isNegative else none
    | _ => none
  match units? a, units? b with
  | some x, some y => x < y
  | some _, none => infinite b == some false
  | none, some _ => infinite a == some true
  | none, none => infinite a == some true && infinite b == some false

def isNumber (v : Value) : Bool :=
  match v.kind with
  | .bool | .int | .float => true
  | _ => false

/-- Is the left key before the right one? Nothing, if the two have no order. -/
def less? (a b : Value) : Option Bool :=
  match a, b with
  | .text s, .text t => some (textLess s t)
  | .bytes s, .bytes t => some (bytesLess s t)
  | .ext c s, .ext d t => some (c < d || (c == d && bytesLess s t))
  | a, b => if a.isNumber && b.isNumber then some (numberLess a b) else none

def sortKeys (keys : List Value) : Except (Kind × Kind) (List Value) :=
  Sorting.sort (fun a b =>
    match less? a b with
    | some less => .ok less
    | none => .error (a.kind, b.kind)) keys

end RecordStream.Value
