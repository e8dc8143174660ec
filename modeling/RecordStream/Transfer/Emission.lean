import RecordStream.Binary64.Places
import RecordStream.Transfer.Connection
import RecordStream.Transfer.Emitter
import RecordStream.Transfer.Job

/-!
A job carried out: one connection is opened, the records are sent, and the connection is closed
whatever happened.
-/

namespace RecordStream

inductive EmissionFault
  | connect (fault : ConnectFault)
  | run (fault : RunFault)
  | digits (limit : DigitLimit)
  | rate (fault : QuotientFault)
deriving DecidableEq

def EmissionFault.message : EmissionFault → Text
  | .connect fault => fault.message
  | .run fault => fault.message
  | .digits limit => limit.message
  | .rate fault => fault.message

structure Emission where
  result : Except EmissionFault EmitStats
  dialled : List Dial
  closed : Nat
  channel : Channel
  logs : List LogLine

namespace Emission

def log (level : Int) (message : Text) : LogLine := ⟨level, "emitter", message⟩

def sendingLine (job : Job) : LogLine :=
  log Level.info ("Sending " ++ Decimal.ofInt job.count ++ " " ++ job.encoding.name
    ++ " messages to " ++ job.target.text)

def sentLine (s : EmitStats) (watch : Stopwatch) : LogLine :=
  log Level.info ("Sent " ++ Decimal.ofInt s.messages ++ " messages (" ++ Decimal.ofInt s.bytesSent
    ++ " bytes) in " ++ watch.elapsed.toPlaces 3 ++ " s")

def rateLine (s : EmitStats) : Except QuotientFault LogLine := do
  let rate ← s.rate
  let throughput ← s.throughput
  return log Level.info ("Rate: " ++ rate.toPlaces 0 ++ " msg/s, throughput: "
    ++ throughput.toPlaces 2 ++ " MB/s")

def conclude (job : Job) (c : Connecting) (result : Except RunFault EmitStats) (channel : Channel)
    (watch : Stopwatch) : Emission :=
  let ended (result : Except EmissionFault EmitStats) (lines : List LogLine) : Emission :=
    { result, dialled := c.dialled, closed := 1, channel
      logs := c.logs ++ sendingLine job :: lines }
  match result with
  | .error fault => ended (.error (.run fault)) []
  | .ok stats =>
    match rateLine stats with
    | .error fault => ended (.error (.rate fault)) [sentLine stats watch]
    | .ok line => ended (.ok stats) [sentLine stats watch, line]

def emitterFor (job : Job) : Emitter :=
  { codec := { encoding := job.encoding }, source := job.source }

def emit (job : Job) (outcome : DialOutcome) (channel : Channel) (watch : Stopwatch)
    (timeout : Option Number := none) : Emission :=
  let c := connect job.target outcome timeout
  match c.result with
  | .error fault =>
    { result := .error (.connect fault), dialled := c.dialled, closed := 0, channel
      logs := c.logs }
  | .ok _ =>
    if Decimal.fits job.count then
      let run := (emitterFor job).run job.count channel watch
      conclude job c run.result run.channel watch
    else
      { result := .error (.digits .writing), dialled := c.dialled, closed := 1, channel
        logs := c.logs }

end Emission

end RecordStream
