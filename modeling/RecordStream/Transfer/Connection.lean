import RecordStream.Binary64.Number
import RecordStream.Logging.Line
import RecordStream.Transfer.Target

/-! Opening a connection. Every attempt to dial is recorded, whether it succeeds or not. -/

namespace RecordStream

inductive DialOutcome
  | refused (reason : Text)
  | connected (own : Endpoint)
deriving DecidableEq

inductive ConnectFault
  /-- The service is a number that is too long; nothing was dialled. -/
  | service (limit : DigitLimit)
  | refused (target : Target) (reason : Text)
deriving DecidableEq

def ConnectFault.message : ConnectFault → Text
  | .service limit => limit.message
  | .refused target reason => "cannot connect to " ++ target.text ++ ": " ++ reason

/-- What is dialled, and the seconds after which that is given up. -/
structure Dial where
  target : Target
  timeout : Option Number
deriving DecidableEq

structure Connecting where
  result : Except ConnectFault Target
  dialled : List Dial
  logs : List LogLine

def connect (t : Target) (outcome : DialOutcome) (timeout : Option Number := none) :
    Connecting :=
  match t.port.dialled with
  | .error limit => { result := .error (.service limit), dialled := [], logs := [] }
  | .ok port =>
    let target := { t with port }
    match outcome with
    | .refused reason =>
      { result := .error (.refused target reason), dialled := [⟨target, timeout⟩], logs := [] }
    | .connected own =>
      { result := .ok target
        dialled := [⟨target, timeout⟩]
        logs := [⟨Level.debug, "emitter", "Connected to " ++ target.text ++ " from " ++ own.text⟩] }

end RecordStream
