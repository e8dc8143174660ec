import RecordStream.Command.Word

/-!
Settings out of a command line. Options act in the order in which they stand. Between two options
the operands still missing take as many words as they can; an operand that need not be there is
given up when its turn comes and no word is left.
-/

namespace RecordStream.Command

variable {Settings : Type}

/-- Why no settings come out. -/
inductive Halt
  | help
  | fault (f : UsageFault)
deriving DecidableEq

inductive RunWord
  | operand (t : Text)
  | separator
deriving DecidableEq

def RunWord.text : RunWord → Text
  | .operand t => t
  | .separator => separatorText

def dropSeparators (run : List RunWord) : List RunWord := run.dropWhile (· = .separator)

/-- The next operand of a run with the separators around it. The text of a separator that stands
for an operand counts only if there is a real separator beside it, else it is a blank. -/
def takeOperand (run : List RunWord) : Option (Given Text × List RunWord) :=
  match dropSeparators run with
  | .operand t :: rest =>
    let left := dropSeparators rest
    let alone := left.length + 1 = run.length
    some (if alone ∧ t = separatorText then .blank else .value t, left)
  | _ => none

/-- Settings, operands still missing, and words that nobody takes. -/
structure Reading (Settings : Type) where
  settings : Settings
  missing : List (OperandRule Settings)
  extra : List Text := []

def fill (settings : Settings) (run : List RunWord) :
    List (OperandRule Settings) → Settings × List (OperandRule Settings) × List RunWord
  | [] => (settings, [], run)
  | rule :: rules =>
    match takeOperand run with
    | some (given, left) => fill (rule.set settings given) left rules
    | none =>
      if rule.required then (settings, rule :: rules, run)
      else fill settings (dropSeparators run) rules

def Reading.fillRun (r : Reading Settings) (run : List RunWord) : Reading Settings :=
  if run.isEmpty then r
  else
    let (settings, missing, left) := fill r.settings run r.missing
    { settings, missing, extra := r.extra ++ left.map RunWord.text }

/-- An option, or a word that should be one, with the run behind it. -/
structure Clause (Settings : Type) where
  head : (OptionRule Settings × Text × Option Text) ⊕ Text
  run : List RunWord

/-- The run before the first option, and the clauses. -/
def split : List (Word Settings) → List RunWord × List (Clause Settings)
  | [] => ([], [])
  | word :: rest =>
    let (run, clauses) := split rest
    match word with
    | .operand t => (.operand t :: run, clauses)
    | .separator => (.separator :: run, clauses)
    | .option rule name attached => ([], ⟨.inl (rule, name, attached), run⟩ :: clauses)
    | .unknown t => ([], ⟨.inr t, run⟩ :: clauses)

def OptionRule.fault (o : OptionRule Settings) (f : OptionFault) : Halt :=
  .fault (.option o.names f)

/-- Options of one letter behind a single dash: those before the last one, the last one, and what
is attached to it. -/
def cluster (g : Grammar Settings) (o : OptionRule Settings) :
    Text → Except Halt (List (OptionRule Settings) × OptionRule Settings × Option Text)
  | [] => .ok ([], o, none)
  | c :: rest =>
    if o.takesArgument then .ok ([], o, some (c :: rest))
    else
      match g.find? [dash, c] with
      | none => .error (o.fault (.unwanted (c :: rest)))
      | some next => (cluster g next rest).map fun (before, last) => (o :: before, last)

def unpack (g : Grammar Settings) (o : OptionRule Settings) (name : Text) :
    Option Text →
      Except Halt (List (OptionRule Settings) × OptionRule Settings × Option Text)
  | none => .ok ([], o, none)
  | some attached =>
    if o.takesArgument then .ok ([], o, some attached)
    else if name.take 2 = separatorText ∨ attached = [] then
      .error (o.fault (.unwanted attached))
    else cluster g o attached

def act (settings : Settings) (o : OptionRule Settings) : Except Halt Settings :=
  match o.effect with
  | .help => .error .help
  | .switch set => .ok (set settings)
  | .argument _ => .error (o.fault .missing)

def actWith (settings : Settings) (o : OptionRule Settings) (given : Given Text) :
    Except Halt Settings :=
  match o.effect with
  | .help => .error .help
  | .switch set => .ok (set settings)
  | .argument set =>
    match set settings given with
    | .ok settings => .ok settings
    | .error f => .error (o.fault f)

/-- The argument that is a part of an option's word; a separator is a blank. -/
def attachedArgument (attached : Text) : Given Text :=
  if attached = separatorText then .blank else .value attached

/-- Lets an option act that may take its argument from the run behind it; the rest of the run. -/
def actOnRun (settings : Settings) (o : OptionRule Settings) (attached : Option Text)
    (run : List RunWord) : Except Halt (Settings × List RunWord) :=
  match attached, o.takesArgument, run with
  | some attached, _, run => (actWith settings o (attachedArgument attached)).map (·, run)
  | none, true, .operand given :: run => (actWith settings o (.value given)).map (·, run)
  | none, _, run => (act settings o).map (·, run)

def Reading.clause (g : Grammar Settings) (r : Reading Settings) (c : Clause Settings) :
    Except Halt (Reading Settings) :=
  match c.head with
  | .inr unknown => .ok ({ r with extra := r.extra ++ [unknown] }.fillRun c.run)
  | .inl (o, name, attached) => do
    let (before, last, attached) ← unpack g o name attached
    let settings ← before.foldlM act r.settings
    let (settings, run) ← actOnRun settings last attached c.run
    return { r with settings }.fillRun run

def parse (g : Grammar Settings) (initial : Settings) (arguments : List Text) :
    Except Halt Settings :=
  match Word.ofAll g arguments with
  | .error f => .error (.fault f)
  | .ok words => do
    let (run, clauses) := split words
    let start : Reading Settings := { settings := initial, missing := g.operands }
    let r ← clauses.foldlM (Reading.clause g) (start.fillRun run)
    match r.missing.filter (·.required) with
    | [] => if r.extra.isEmpty then .ok r.settings else .error (.fault (.unrecognized r.extra))
    | missing => .error (.fault (.required (missing.map (·.name))))

end RecordStream.Command
