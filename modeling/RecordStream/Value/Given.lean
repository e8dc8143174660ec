import RecordStream.Value.Basic

/-!
What was given where something could be chosen: a value, or a blank. A blank is there and says
nothing; no check looks at it, and wherever it is used it is an empty list.
-/

namespace RecordStream

inductive Given (α : Type)
  | value (a : α)
  | blank
deriving DecidableEq

namespace Given

variable {α β ε : Type}

instance : Coe α (Given α) := ⟨.value⟩

def getD (given : Given α) (fallback : α) : α :=
  match given with
  | .value a => a
  | .blank => fallback

/-- What comes of a check that only a value has to pass. -/
def check (judge : α → Except ε β) : Given α → Except ε (Given β)
  | .value a => (judge a).map .value
  | .blank => .ok .blank

def toValue (ofValue : α → Value) : Given α → Value
  | .value a => ofValue a
  | .blank => .list []

/-- The text of what was given, if `shown` writes a value. -/
def text (shown : α → Text) : Given α → Text
  | .value a => shown a
  | .blank => "[]"

end Given

end RecordStream
