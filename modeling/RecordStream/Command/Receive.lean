import RecordStream.Command.Outcome
import RecordStream.Command.Settings
import RecordStream.Transfer.Sink

/-!
The receiving program: it waits for one connection, reads it to its end, and prints how many
records came.
-/

namespace RecordStream.Command.Receive

def program : Text := "dropbench-sink"

structure Settings where
  listener : Listener := {}
  expected : Option (Given Int) := none
  base : BaseSettings := {}

def grammar : Grammar Settings where
  options :=
    [ helpRule,
      ⟨["--host"], .argument fun s host => .ok { s with listener := { s.listener with host } }⟩,
      ⟨["--port"], .argument fun s given =>
        (given.check chooseInteger).map fun port => { s with listener := { s.listener with port } }⟩,
      ⟨["--expect"], .argument fun s given =>
        (given.check chooseInteger).map fun expected => { s with expected := some expected }⟩ ]
    ++ baseRules Settings.base fun s base => { s with base }

def usage : Text :=
  "usage: dropbench-sink [-h] [--host HOST] [--port PORT] [--expect EXPECT]\n"
    ++ "                      [--encoding \x7bmsgpack,json\x7d]\n"
    ++ "                      [--log-level \x7bDEBUG,INFO,WARNING,ERROR,CRITICAL\x7d]\n"
    ++ "                      [--no-color]\n"

def help : Text :=
  usage
    ++ "\n"
    ++ "Accept one dropbench connection, decode and count the records.\n"
    ++ "\n"
    ++ "options:\n"
    ++ "  -h, --help            show this help message and exit\n"
    ++ "  --host HOST\n"
    ++ "  --port PORT\n"
    ++ "  --expect EXPECT       Exit with status 1 unless exactly this many records\n"
    ++ "                        arrive\n"
    ++ "  --encoding \x7bmsgpack,json\x7d\n"
    ++ "                        Wire encoding (default: msgpack)\n"
    ++ "  --log-level \x7bDEBUG,INFO,WARNING,ERROR,CRITICAL\x7d\n"
    ++ "                        Log level (default: WARNING)\n"
    ++ "  --no-color            Disable colored log output\n"

structure Visit where
  listening : ListenOutcome
  /-- The peer whose connection was accepted, or why none could be. -/
  accepted : Except Text Endpoint
  segments : List Segment
  watch : Stopwatch

inductive Crash
  | blank (setting : BlankSetting)
  | address (fault : AddressFault)
  /-- An object to be dropped is nested too deep to be shown. -/
  | tooDeep

def Crash.message : Crash → Text
  | .blank setting => setting.message
  | .address fault => fault.message
  | .tooDeep => Value.ShowFault.depth.message

structure Run where
  outcome : Outcome Crash
  listened : List Listener

structure Task where
  listener : Listener
  encoding : Encoding
  expected : Option (Given Int)
  console : Console

/-- Did so many records come as were expected? A blank expects no number of them. -/
def meets (records : Int) : Option (Given Int) → Bool
  | none => true
  | some (.value n) => records = n
  | some .blank => false

def endingOf {e : Encoding} (expected : Option (Given Int)) :
    Except (ReceiveFault e) SinkStats → Ending Crash × Text × List LogLine
  | .error (.decode fault) => (.exit ExitCode.badArgument, [], [errorLine fault.message])
  | .error (.stream reason) =>
    (.exit ExitCode.transfer, [], [errorLine ("Receive failed: " ++ reason)])
  | .error .tooDeep => (.crash .tooDeep, [], [])
  | .ok stats =>
    let shown := Decimal.ofInt stats.records
    if meets stats.records expected then (.exit ExitCode.success, shown ++ "\n", [])
    else
      (.exit ExitCode.usage, shown ++ "\n",
        [errorLine ("Expected " ++ expected.elim [] (·.text Decimal.ofInt) ++ " records, received "
          ++ shown)])

def serve (around : Surroundings) (t : Task) (visit : Visit) : Run :=
  match visit.listening with
  | .unusable fault =>
    { outcome := { ending := .crash (.address fault), console := t.console }
      listened := [t.listener] }
  | .refused reason =>
    let line := errorLine ("Cannot listen on " ++ t.listener.host.text id ++ ":"
      ++ t.listener.port.text Decimal.ofInt ++ ": " ++ reason)
    { outcome :=
        { ending := .exit ExitCode.connection
          stderr := t.console.writeAll around.moment [line]
          console := t.console }
      listened := [t.listener] }
  | .listening port =>
    let sink : Sink := { encoding := t.encoding }
    let c := sink.serveNext visit.accepted visit.segments visit.watch
    let (ending, stdout, lines) := endingOf t.expected c.result
    { outcome :=
        { ending, stdout
          stderr := t.console.writeAll around.moment (t.listener.line port :: c.logs ++ lines)
          console := t.console }
      listened := [t.listener] }

/-- What a command line leads to: an outcome without listening, or a task. The log is set up
first. -/
def plan (around : Surroundings) (arguments : List Text) : Outcome Crash ⊕ Task :=
  match parse grammar {} arguments with
  | .error .help => .inl { ending := .stop ExitCode.success, stdout := help }
  | .error (.fault f) =>
    .inl { ending := .stop ExitCode.badArgument, stderr := usage ++ complaint program f.message }
  | .ok s =>
    match s.base.console around with
    | .error blank => .inl { ending := .crash (.blank blank) }
    | .ok console =>
      match s.base.chosenEncoding with
      | .error blank => .inl { ending := .crash (.blank blank), console }
      | .ok encoding =>
        .inr { listener := s.listener, encoding, expected := s.expected, console }

def run (around : Surroundings) (arguments : List Text) (visit : Visit) : Run :=
  match plan around arguments with
  | .inl outcome => { outcome, listened := [] }
  | .inr task => serve around task visit

end RecordStream.Command.Receive
