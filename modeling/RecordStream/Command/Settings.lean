import RecordStream.Command.Parse
import RecordStream.Logging.Console
import RecordStream.Wire.Encoding

/-! The settings that both programs have: the encoding, and what goes to the log. -/

namespace RecordStream.Command

def levelNames : List Text := ["DEBUG", "INFO", "WARNING", "ERROR", "CRITICAL"]

def chooseLevel (given : Text) : Except OptionFault Int :=
  match choose levelNames given.toUpper with
  | .error f => .error f
  | .ok name =>
    match Level.ofName name with
    | .ok level => .ok level
    | .error _ => .error (.choice name levelNames)

def chooseEncoding (given : Text) : Except OptionFault Encoding :=
  match Encoding.all.find? fun e => e.name == given with
  | some e => .ok e
  | none => .error (.choice given (Encoding.all.map Encoding.name))

structure BaseSettings where
  encoding : Given Encoding := .value .msgpack
  level : Given Int := .value Level.warning
  color : Bool := true
deriving DecidableEq

variable {Settings : Type}

def helpRule : OptionRule Settings := ⟨["-h", "--help"], .help⟩

/-- The options for the base settings, which are a part of the settings of a program. -/
def baseRules (get : Settings → BaseSettings) (put : Settings → BaseSettings → Settings) :
    List (OptionRule Settings) :=
  [ ⟨["--encoding"], .argument fun s given =>
      (given.check chooseEncoding).map fun encoding => put s { get s with encoding }⟩,
    ⟨["--log-level"], .argument fun s given =>
      (given.check chooseLevel).map fun level => put s { get s with level }⟩,
    ⟨["--no-color"], .switch fun s => put s { get s with color := false }⟩ ]

/-- What a program finds when it starts: whether the log goes to a terminal, and what time is
shown in the log. -/
structure Surroundings where
  terminal : Bool := false
  moment : Moment
deriving DecidableEq

inductive BlankSetting
  | encoding
  | level
deriving DecidableEq

def BlankSetting.message : BlankSetting → Text
  | .encoding => "'list' object has no attribute 'lower'"
  | .level => "Level not an integer or a valid string: []"

def BaseSettings.chosenEncoding (s : BaseSettings) : Except BlankSetting Encoding :=
  match s.encoding with
  | .value e => .ok e
  | .blank => .error .encoding

def BaseSettings.console (s : BaseSettings) (around : Surroundings) :
    Except BlankSetting Console :=
  match s.level with
  | .value level => .ok (({} : Console).install level (s.color && around.terminal) false)
  | .blank => .error .level

end RecordStream.Command
