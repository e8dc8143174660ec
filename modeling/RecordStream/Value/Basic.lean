import RecordStream.Binary64.Basic
import RecordStream.Text.Basic

/-!
The values that wire formats carry. Maps keep the order in which their keys first arrived; a key
that arrives again keeps its place and takes the newer value.
-/

namespace RecordStream

inductive Value
  | null
  | bool (b : Bool)
  | int (n : Int)
  | float (x : Binary64)
  | text (t : Text)
  | bytes (b : Bytes)
  | list (items : List Value)
  | map (entries : List (Value × Value))
  /-- Application data under a code that the application chose. -/
  | ext (code : Nat) (data : Bytes)
  | timestamp (seconds : Int) (nanoseconds : Nat)
deriving Inhabited

namespace Value

inductive Kind
  | null
  | bool
  | int
  | float
  | text
  | bytes
  | list
  | map
  | ext
  | timestamp
deriving DecidableEq

def kind : Value → Kind
  | .null => .null
  | .bool _ => .bool
  | .int _ => .int
  | .float _ => .float
  | .text _ => .text
  | .bytes _ => .bytes
  | .list _ => .list
  | .map _ => .map
  | .ext .. => .ext
  | .timestamp .. => .timestamp

def Kind.name : Kind → Text
  | .null => "NoneType"
  | .bool => "bool"
  | .int => "int"
  | .float => "float"
  | .text => "str"
  | .bytes => "bytes"
  | .list => "list"
  | .map => "dict"
  | .ext => "ExtType"
  | .timestamp => "Timestamp"

/-- A number as a multiple of `2 ^ -1074`; truth values count as one and zero. Not a number, and
infinities, have no such multiple. -/
def units? : Value → Option Int
  | .bool b => some (if b then 2 ^ 1074 else 0)
  | .int n => some (n * 2 ^ 1074)
  | .float x => if x.isNaN || x.isInfinite then none else some x.units
  | _ => none

/-- Do two keys denote the same entry of a map? Numbers of different kinds do if they are equal. -/
def sameKey : Value → Value → Bool
  | .null, .null => true
  | .text s, .text t => s == t
  | .bytes s, .bytes t => s == t
  | .ext c s, .ext d t => c == d && s == t
  | .timestamp s n, .timestamp t m => s == t && n == m
  | .float x, .float y =>
    !x.isNaN && !y.isNaN && (x == y || (x.isZero && y.isZero))
  | a, b =>
    match units? a, units? b with
    | some x, some y => x == y
    | _, _ => false

/-- Puts an entry into a map that is given by its entries. -/
def insert (entries : List (Value × Value)) (key value : Value) : List (Value × Value) :=
  match entries with
  | [] => [(key, value)]
  | (k, v) :: rest => if sameKey k key then (k, value) :: rest else (k, v) :: insert rest key value

/-- The map of the pairs, put in from left to right. -/
def ofPairs (pairs : List (Value × Value)) : List (Value × Value) :=
  pairs.foldl (fun entries (key, value) => insert entries key value) []

def get? (entries : List (Value × Value)) (key : Text) : Option Value :=
  (entries.find? fun (k, _) => sameKey k (.text key)).map (·.2)

def hasKey (v : Value) (key : Text) : Bool :=
  match v with
  | .map entries => (get? entries key).isSome
  | _ => false

end Value

end RecordStream
