import RecordStream.Text.Undecodable

/-! Why a record cannot be written in a wire encoding. -/

namespace RecordStream

inductive EncodeFault
  | integerRange
  | digits (limit : DigitLimit)
  | surrogate (u : Unencodable)
  /-- A text takes more bytes than its head can announce. -/
  | textSize
deriving DecidableEq

def EncodeFault.message : EncodeFault → Text
  | .integerRange => "Integer value out of range"
  | .digits limit => limit.message
  | .surrogate u => u.message
  | .textSize => "unicode string is too large"

end RecordStream
