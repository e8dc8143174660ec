import RecordStream.Command.Outcome
import RecordStream.Command.Settings
import RecordStream.Hexdump
import RecordStream.Transfer.Emission

/-!
The sending program: a target and a count from the command line, then either one connection over
which that many records go, or a dump of the first record.
-/

namespace RecordStream.Command.Send

def program : Text := "dropbench"

structure Settings where
  host : Text := []
  port : Value := .list []
  count : Value := .null
  source : Given Text := Record.defaultSource
  dump : Bool := false
  base : BaseSettings := {}

def grammar : Grammar Settings where
  options :=
    [ helpRule,
      ⟨["--source"], .argument fun s given => .ok { s with source := given }⟩,
      ⟨["--dump"], .switch fun s => { s with dump := true }⟩ ]
    ++ baseRules Settings.base fun s base => { s with base }
  operands :=
    [ { name := "HOST", set := fun s given => { s with host := given.getD [] } },
      { name := "PORT", set := fun s given => { s with port := given.toValue .text } },
      { name := "COUNT", required := false
        set := fun s given =>
          match given with
          | .value t => { s with count := .text t }
          | .blank => s } ]

def usage : Text :=
  "usage: dropbench [-h] [--source SOURCE] [--dump] [--encoding \x7bmsgpack,json\x7d]\n"
    ++ "                 [--log-level \x7bDEBUG,INFO,WARNING,ERROR,CRITICAL\x7d]\n"
    ++ "                 [--no-color]\n"
    ++ "                 HOST PORT [COUNT]\n"

def help : Text :=
  usage
    ++ "\n"
    ++ "Stream fixed-shape records to HOST:PORT as fast as possible.\n"
    ++ "\n"
    ++ "positional arguments:\n"
    ++ "  HOST                  Target host name or address\n"
    ++ "  PORT                  Target port number or service name\n"
    ++ "  COUNT                 Number of messages to send (default: 1)\n"
    ++ "\n"
    ++ "options:\n"
    ++ "  -h, --help            show this help message and exit\n"
    ++ "  --source SOURCE       Sender name put into every record (default: service)\n"
    ++ "  --dump                Hexdump the first encoded message and exit without\n"
    ++ "                        connecting\n"
    ++ "  --encoding \x7bmsgpack,json\x7d\n"
    ++ "                        Wire encoding (default: msgpack)\n"
    ++ "  --log-level \x7bDEBUG,INFO,WARNING,ERROR,CRITICAL\x7d\n"
    ++ "                        Log level (default: WARNING)\n"
    ++ "  --no-color            Disable colored log output\n"

inductive Crash
  | blank (setting : BlankSetting)
  | job (fault : JobFault)
  | record (fault : Record.IndexFault)
  | encode (fault : EncodeFault)
  | emission (fault : EmissionFault)

def Crash.message : Crash → Text
  | .blank setting => setting.message
  | .job fault => fault.message
  | .record fault => fault.message
  | .encode fault => fault.message
  | .emission fault => fault.message

structure Run where
  outcome : Outcome Crash
  dialled : List Dial
  channel : Channel

def dumpFirst (job : Job) : Except Crash Text :=
  match Record.forIndex 0 job.source with
  | .error fault => .error (.record fault)
  | .ok record =>
    match (({ encoding := job.encoding } : Codec).pack record).1 with
    | .error fault => .error (.encode fault)
    | .ok frame => .ok (Hexdump.dump frame 0 16 ++ "\n")

def endingOf (job : Job) : Except EmissionFault EmitStats → Ending Crash × List LogLine
  | .ok _ => (.exit ExitCode.success, [])
  | .error fault =>
    match fault with
    | .connect (.refused ..) => (.exit ExitCode.connection, [errorLine fault.message])
    | .run (.send messages _) =>
      (.exit ExitCode.transfer,
        [errorLine (fault.message ++ " (" ++ Decimal.ofNat messages ++ " of "
          ++ Decimal.ofInt job.count ++ " messages written)")])
    | _ => (.crash (.emission fault), [])

structure Task where
  job : Job
  console : Console

inductive TaskFault
  | argument (fault : ArgumentFault)
  | crash (fault : Crash)

/-- The task that the settings describe. The job is looked at first, and in it the encoding. -/
def Settings.task (s : Settings) (around : Surroundings) : Except TaskFault Task :=
  match s.base.chosenEncoding with
  | .error blank => .error (.crash (.blank blank))
  | .ok encoding =>
    match Job.ofArguments s.host s.port s.count encoding.name s.source with
    | .error (.argument fault) => .error (.argument fault)
    | .error fault => .error (.crash (.job fault))
    | .ok job =>
      match s.base.console around with
      | .error blank => .error (.crash (.blank blank))
      | .ok console => .ok { job, console }

def plan (around : Surroundings) (arguments : List Text) : Outcome Crash ⊕ Task :=
  match parse grammar {} arguments with
  | .error .help => .inl { ending := .stop ExitCode.success, stdout := help }
  | .error (.fault f) =>
    .inl { ending := .exit ExitCode.usage, stderr := usage ++ complaint program f.message }
  | .ok s =>
    match s.task around with
    | .error (.argument f) =>
      .inl { ending := .exit ExitCode.badArgument, stderr := complaint program f.message }
    | .error (.crash fault) => .inl { ending := .crash fault }
    | .ok task =>
      if s.dump then
        match dumpFirst task.job with
        | .error fault => .inl { ending := .crash fault, console := task.console }
        | .ok stdout => .inl { ending := .exit ExitCode.success, stdout, console := task.console }
      else .inr task

def Task.report (around : Surroundings) (t : Task) (e : Emission) : Outcome Crash :=
  let (ending, lines) := endingOf t.job e.result
  { ending, stderr := t.console.writeAll around.moment (e.logs ++ lines), console := t.console }

def run (around : Surroundings) (arguments : List Text) (outcome : DialOutcome)
    (channel : Channel) (watch : Stopwatch) : Run :=
  match plan around arguments with
  | .inl outcome => { outcome, dialled := [], channel }
  | .inr task =>
    let e := Emission.emit task.job outcome channel watch
    { outcome := task.report around e, dialled := e.dialled, channel := e.channel }

end RecordStream.Command.Send
