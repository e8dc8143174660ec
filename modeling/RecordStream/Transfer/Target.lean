import RecordStream.Text.Digits
import RecordStream.Text.Quoted

/-! Where connections lead to. A port has a number or is the name of a service. -/

namespace RecordStream

inductive Port
  | number (n : Int)
  | service (name : Text)
deriving DecidableEq

namespace Port

def text : Port → Text
  | .number n => Decimal.ofInt n
  | .service name => name

/-- The port as it is dialled: a service name of ASCII digits stands for their number. -/
def dialled : Port → Except DigitLimit Port
  | .number n => .ok (.number n)
  | .service name =>
    if name.isAscii && name.isDigits then (Decimal.read name).map fun (n : Nat) => .number n
    else .ok (.service name)

end Port

structure Target where
  host : Text
  port : Port
deriving DecidableEq

def Target.text (t : Target) : Text := t.host ++ ":" ++ t.port.text

structure Endpoint where
  host : Text
  port : Nat
deriving DecidableEq

def Endpoint.text (e : Endpoint) : Text :=
  "(" ++ e.host.quoted ++ ", " ++ Decimal.ofNat e.port ++ ")"

end RecordStream
