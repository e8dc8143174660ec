import RecordStream.Logging.Console

/-! How a program ends, and what it writes. -/

namespace RecordStream.Command

inductive Ending (Fault : Type)
  /-- The work is done, and the code tells how it went. -/
  | exit (code : Nat)
  /-- The command line stops the program before its work begins. -/
  | stop (code : Nat)
  /-- A fault that has no exit code. -/
  | crash (fault : Fault)

/-- The ending of a program, what it wrote, and its log afterwards. -/
structure Outcome (Fault : Type) where
  ending : Ending Fault
  stdout : Text := []
  stderr : Text := []
  console : Console := {}

namespace ExitCode

def success : Nat := 0
def usage : Nat := 1
def badArgument : Nat := 2
def connection : Nat := 3
def transfer : Nat := 4

end ExitCode

def complaint (program message : Text) : Text := program ++ ": error: " ++ message ++ "\n"

def errorLine (message : Text) : LogLine := ⟨Level.error, "cli", message⟩

end RecordStream.Command
