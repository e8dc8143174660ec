import RecordStream.Text.Decimal
import RecordStream.Text.Quoted
import RecordStream.Text.Uppercase

/-! Severities of log lines: any integer is one, and a few have names. -/

namespace RecordStream

namespace Level

def debug : Int := 10
def info : Int := 20
def warning : Int := 30
def error : Int := 40
def critical : Int := 50

def named : List (Int × Text) :=
  [(critical, "CRITICAL"), (error, "ERROR"), (warning, "WARNING"), (info, "INFO"),
    (debug, "DEBUG"), (0, "NOTSET")]

/-- Further names of severities that have a name already. -/
def aliases : List (Int × Text) := [(critical, "FATAL"), (warning, "WARN")]

def name (level : Int) : Text :=
  match named.find? (·.1 == level) with
  | some (_, name) => name
  | none => "Level " ++ Decimal.ofInt level

structure UnknownName where
  given : Text
deriving DecidableEq

def UnknownName.message (e : UnknownName) : Text :=
  "Unknown log level " ++ (Text.quoted ("Level " ++ e.given))

def ofName (given : Text) : Except UnknownName Int :=
  match (named ++ aliases).find? (·.2 == given.toUpper) with
  | some (level, _) => .ok level
  | none => .error ⟨given.toUpper⟩

end Level

end RecordStream
