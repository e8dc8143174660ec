import RecordStream.Binary64.Shortest
import RecordStream.Text.Quoted
import RecordStream.Value.Basic

/-!
Values as text for messages: texts and bytes in quotes, lists in brackets, maps in braces.
-/

namespace RecordStream.Value

def quotedBool (b : Bool) : Text := if b then "True" else "False"

mutual

def quoted : Value → Text
  | .null => "None"
  | .bool b => quotedBool b
  | .int n => Decimal.ofInt n
  | .float x => x.shortest
  | .text t => t.quoted
  | .bytes b => Bytes.quoted b
  | .list items => "[" ++ Text.join ", " (quotedItems items) ++ "]"
  | .map entries => "\x7b" ++ Text.join ", " (quotedEntries entries) ++ "\x7d"
  | .ext code data =>
    "ExtType(code=" ++ Decimal.ofNat code ++ ", data=" ++ Bytes.quoted data ++ ")"
  | .timestamp seconds nanoseconds =>
    "Timestamp(seconds=" ++ Decimal.ofInt seconds ++ ", nanoseconds=" ++ Decimal.ofNat nanoseconds
      ++ ")"

def quotedItems : List Value → List Text
  | [] => []
  | v :: rest => quoted v :: quotedItems rest

def quotedEntries : List (Value × Value) → List Text
  | [] => []
  | (k, v) :: rest => (quoted k ++ ": " ++ quoted v) :: quotedEntries rest

end

mutual

/-- Can every integer inside be written within the digit limit? -/
def fits : Value → Bool
  | .int n => Decimal.fits n
  | .list items => fitsItems items
  | .map entries => fitsEntries entries
  | _ => true

def fitsItems : List Value → Bool
  | [] => true
  | v :: rest => fits v && fitsItems rest

def fitsEntries : List (Value × Value) → Bool
  | [] => true
  | (k, v) :: rest => fits k && fits v && fitsEntries rest

end

mutual

/-- How deep lists and maps are nested in the value; a list or map of plain values has depth one,
and one that is empty is a plain value itself. -/
def depth : Value → Nat
  | .list items => depthItems items
  | .map entries => depthEntries entries
  | _ => 0

/-- One more than the depth of the deepest item. -/
def depthItems : List Value → Nat
  | [] => 0
  | v :: rest => max (depth v + 1) (depthItems rest)

/-- One more than the depth of the deepest key or value. -/
def depthEntries : List (Value × Value) → Nat
  | [] => 0
  | (k, v) :: rest => max (max (depth k) (depth v) + 1) (depthEntries rest)

end

/-- Values that are nested deeper are not shown. The bound is that of release 3.11 with its limit of
1000 nested calls, ten of which are taken when a value is to be shown; 3.12.3 shows 1010. -/
def maxShownDepth : Nat := 990

def tooDeep (v : Value) : Bool := maxShownDepth < depth v

inductive ShowFault
  | depth
  | digits (limit : DigitLimit)
deriving DecidableEq

def ShowFault.message : ShowFault → Text
  | .depth => "maximum recursion depth exceeded while getting the repr of an object"
  | .digits limit => limit.message

def showFault? (v : Value) : Option ShowFault :=
  if v.tooDeep then some .depth
  else if v.fits then none
  else some (.digits .writing)

end RecordStream.Value
