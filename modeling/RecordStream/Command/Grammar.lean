import RecordStream.Text.Quoted
import RecordStream.Text.TypedInteger
import RecordStream.Value.Given

/-!
The grammar of a command line: its options, its operands, and what each does to the settings.
Faults are about the words of the command line, never about what the settings mean. A bare
separator in the place of a word is a blank, as in the first patches of release 3.11. Later ones,
3.11.10 and 3.12.3 among them, take a separator that is attached to an option like any other word.
-/

namespace RecordStream.Command

inductive OptionFault
  | missing
  /-- The option takes no argument. -/
  | unwanted (given : Text)
  | choice (given : Text) (choices : List Text)
  | integer (given : Text)
deriving DecidableEq

def OptionFault.message : OptionFault → Text
  | .missing => "expected one argument"
  | .unwanted given => "ignored explicit argument " ++ given.quoted
  | .choice given choices =>
    "invalid choice: " ++ given.quoted ++ " (choose from "
      ++ Text.join ", " (choices.map Text.quoted) ++ ")"
  | .integer given => "invalid int value: " ++ given.quoted

inductive UsageFault
  /-- A shortened option that could be any of several. -/
  | ambiguous (given : Text) (candidates : List Text)
  | option (names : List Text) (fault : OptionFault)
  | required (names : List Text)
  | unrecognized (arguments : List Text)
deriving DecidableEq

def UsageFault.message : UsageFault → Text
  | .ambiguous given candidates =>
    "ambiguous option: " ++ given ++ " could match " ++ Text.join ", " candidates
  | .option names fault => "argument " ++ Text.join "/" names ++ ": " ++ fault.message
  | .required names => "the following arguments are required: " ++ Text.join ", " names
  | .unrecognized arguments => "unrecognized arguments: " ++ Text.join " " arguments

inductive Effect (Settings : Type)
  /-- Stops everything and shows the help. -/
  | help
  | switch (set : Settings → Settings)
  | argument (set : Settings → Given Text → Except OptionFault Settings)

structure OptionRule (Settings : Type) where
  names : List Text
  effect : Effect Settings

def OptionRule.takesArgument {Settings : Type} (o : OptionRule Settings) : Bool :=
  match o.effect with
  | .argument _ => true
  | _ => false

structure OperandRule (Settings : Type) where
  name : Text
  required : Bool := true
  set : Settings → Given Text → Settings

structure Grammar (Settings : Type) where
  options : List (OptionRule Settings)
  operands : List (OperandRule Settings) := []

namespace Grammar

variable {Settings : Type}

def names (g : Grammar Settings) : List (Text × OptionRule Settings) :=
  g.options.flatMap fun o => o.names.map (·, o)

def find? (g : Grammar Settings) (name : Text) : Option (OptionRule Settings) :=
  (g.names.find? (·.1 == name)).map (·.2)

end Grammar

def choose (choices : List Text) (given : Text) : Except OptionFault Text :=
  if choices.contains given then .ok given else .error (.choice given choices)

def chooseInteger (given : Text) : Except OptionFault Int :=
  match TypedInteger.read given with
  | .ok n => .ok n
  | .error _ => .error (.integer given)

end RecordStream.Command
