import RecordStream.Logging.Level
import RecordStream.Logging.Moment

/-!
Log lines and how they are written: date and time, severity, place in the program, message.
-/

namespace RecordStream

structure LogLine where
  level : Int
  /-- The part of the program that speaks. -/
  origin : Text
  message : Text
deriving DecidableEq

namespace LogLine

def colors : List (Int × Text) :=
  [(Level.debug, "\x1b[36m"), (Level.info, "\x1b[32m"), (Level.warning, "\x1b[33m"),
    (Level.error, "\x1b[31m"), (Level.critical, "\x1b[41m")]

def levelText (colored : Bool) (level : Int) : Text :=
  match colored, colors.find? (·.1 == level) with
  | true, some (_, color) => color ++ Level.name level ++ "\x1b[0m"
  | _, _ => Level.name level

/-- The line as it is written, without its end. -/
def text (l : LogLine) (colored : Bool) (moment : Moment) : Text :=
  moment.text ++ " [" ++ levelText colored l.level ++ "] " ++ l.origin ++ ": " ++ l.message

end LogLine

end RecordStream
