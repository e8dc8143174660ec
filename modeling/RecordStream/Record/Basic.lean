import RecordStream.Text.Quoted
import RecordStream.Value.Given
import RecordStream.Value.Quoted

/-!
The record that is sent over and over. All records have the same four fields; in a run only the
message changes, which ends in the index of the record.
-/

namespace RecordStream

/-- One record: who sent it, the child name inside its parent field, and its message. A sender may
leave its name blank. -/
structure Record where
  id : Int := 42
  source : Given Text := .value "service"
  child : Text := "item"
  message : Text
deriving DecidableEq

namespace Record

def defaultSource : Text := "service"

def messagePrefix : Text := "le message - "

inductive IndexFault
  | negative (index : Int)
  | unwritable (limit : DigitLimit)
deriving DecidableEq

def IndexFault.message : IndexFault → Text
  | .negative index => "index must be >= 0, got " ++ Decimal.ofInt index
  | .unwritable limit => limit.message

def forIndex (index : Int) (source : Given Text) : Except IndexFault Record :=
  match Decimal.write index with
  | .error limit => .error (.unwritable limit)
  | .ok shown =>
    if index < 0 then .error (.negative index)
    else .ok { source, message := messagePrefix ++ shown }

/-- The record as a map, with its fields in the order in which they are sent. -/
def toValue (r : Record) : Value :=
  .map
    [(.text "id", .int r.id), (.text "source", r.source.toValue .text),
      (.text "parent", .map [(.text "child", .text r.child)]), (.text "message", .text r.message)]

def quoted (r : Record) : Text :=
  "MessageRecord(id=" ++ Decimal.ofInt r.id ++ ", source=" ++ r.source.text Text.quoted ++ ", child="
    ++ r.child.quoted ++ ", message=" ++ r.message.quoted ++ ")"

/-- The same, unless the number of the record is too long to write. -/
def quote (r : Record) : Except DigitLimit Text :=
  if Decimal.fits r.id then .ok r.quoted else .error .writing

end Record

end RecordStream
