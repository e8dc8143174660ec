import RecordStream.Logging.Line

/-!
The log of the process. Lines go to one handler, which is installed by the first setup that
succeeds and replaced only by a setup that asks for that; every successful setup sets the least
severity.
-/

namespace RecordStream

structure LogHandler where
  serial : Nat
  colored : Bool
deriving DecidableEq

structure Console where
  level : Int := Level.warning
  handler : Option LogHandler := none
deriving DecidableEq

namespace Console

inductive LevelChoice
  | number (level : Int)
  | name (given : Text)
deriving DecidableEq

def LevelChoice.value : LevelChoice → Except Level.UnknownName Int
  | .number level => .ok level
  | .name given => Level.ofName given

structure Setup where
  color : Bool := true
  level : LevelChoice := .number Level.warning
  reconfigure : Bool := false
deriving DecidableEq

/-- Sets the least severity, and installs a handler if there is none or a new one is wanted. -/
def install (c : Console) (level : Int) (colored reconfigure : Bool) : Console :=
  match c.handler with
  | none => { level, handler := some ⟨0, colored⟩ }
  | some h =>
    if reconfigure then { level, handler := some ⟨h.serial + 1, colored⟩ } else { c with level }

/-- Colours are used when they are asked for and the log goes to a terminal. -/
def setUp (c : Console) (s : Setup) (terminal : Bool) : Except Level.UnknownName Console :=
  s.level.value.map fun level => c.install level (s.color && terminal) s.reconfigure

/-- What a log line adds to the log. Without a handler warnings and worse appear bare. -/
def write (c : Console) (moment : Moment) (l : LogLine) : Text :=
  if 0 < l.level ∧ c.level ≤ l.level then
    match c.handler with
    | some h => l.text h.colored moment ++ "\n"
    | none => if Level.warning ≤ l.level then l.message ++ "\n" else []
  else []

def writeAll (c : Console) (moment : Moment) (lines : List LogLine) : Text :=
  lines.flatMap (c.write moment)

end Console

end RecordStream
