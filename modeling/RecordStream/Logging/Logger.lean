import RecordStream.Logging.Console

/-!
The log of the process in full. Every line goes to each handler of a list, whoever put it there,
and a setup remembers the handler that it made, so that a later one can take it out again.
-/

namespace RecordStream

structure Logger where
  level : Int := Level.warning
  handlers : List LogHandler := []
  /-- The handler that the last setup made. -/
  own : Option LogHandler := none
  /-- How many handlers were made; the next one is told from all others by this number. -/
  made : Nat := 0
deriving DecidableEq

namespace Logger

def setLevel (l : Logger) (level : Int) : Logger := { l with level }

/-- A handler that is there already is not added again. -/
def addHandler (l : Logger) (h : LogHandler) : Logger :=
  if h ∈ l.handlers then l else { l with handlers := l.handlers ++ [h] }

def removeHandler (l : Logger) (h : LogHandler) : Logger :=
  { l with handlers := l.handlers.erase h }

def makeHandler (l : Logger) (colored : Bool) : Logger :=
  let h : LogHandler := ⟨l.made, colored⟩
  { l with own := some h, made := l.made + 1 }.addHandler h

/-- Sets the least severity, then sees to the handler. A name that is no severity stops it before
anything is changed. -/
def setUp (l : Logger) (s : Console.Setup) (terminal : Bool) : Except Level.UnknownName Logger :=
  match s.level.value with
  | .error e => .error e
  | .ok level =>
    let l := l.setLevel level
    match l.own with
    | none => .ok (l.makeHandler (s.color && terminal))
    | some h =>
      if s.reconfigure then .ok ((l.removeHandler h).makeHandler (s.color && terminal)) else .ok l

/-- What a log line adds to the log. Without a handler warnings and worse appear bare. -/
def write (l : Logger) (moment : Moment) (x : LogLine) : Text :=
  if 0 < x.level ∧ l.level ≤ x.level then
    if l.handlers = [] then if Level.warning ≤ x.level then x.message ++ "\n" else []
    else l.handlers.flatMap fun h => x.text h.colored moment ++ "\n"
  else []

end Logger

/-- What happens to the log: a setup, with a terminal at hand or not, or a line. -/
inductive LogEvent
  | setUp (s : Console.Setup) (terminal : Bool)
  | line (x : LogLine) (moment : Moment)
deriving DecidableEq

namespace Logger

/-- A setup that fails leaves the log alone, and so does a line. -/
def use (l : Logger) : LogEvent → Logger
  | .setUp s terminal =>
    match l.setUp s terminal with
    | .ok next => next
    | .error _ => l
  | .line _ _ => l

/-- The log of a process in which this happened, in order. -/
def after (history : List LogEvent) : Logger := history.foldl use {}

end Logger

end RecordStream
