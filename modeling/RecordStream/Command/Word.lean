import RecordStream.Command.Grammar

/-!
The words of a command line by their role. A word is an option if it starts with a dash and names
an option, exactly or shortened; negative numbers and words with a blank are operands all the
same. Behind the first bare `--` every word is an operand.
-/

namespace RecordStream.Command

variable {Settings : Type}

inductive Word (Settings : Type)
  | operand (t : Text)
  | separator
  /-- An option under one of its names, with the argument that is part of the word. -/
  | option (rule : OptionRule Settings) (name : Text) (attached : Option Text)
  | unknown (t : Text)

def separatorText : Text := "--"

def dash : CodePoint := CodePoint.ofChar '-'

/-- The part before the first equals sign, and the part behind it if there is one. -/
def splitEquals (t : Text) : Text × Option Text :=
  match t.dropWhile (!CodePoint.is · '=') with
  | [] => (t, none)
  | _ :: rest => (t.takeWhile (!CodePoint.is · '='), some rest)

/-- One decimal number behind a minus sign: digits, or a point with digits behind it. A line end
may follow. -/
def isNegativeNumber (t : Text) : Bool :=
  match t with
  | [] => false
  | c :: rest =>
    let body := if rest.getLast?.any (CodePoint.is · '\n') then rest.dropLast else rest
    let tail := body.dropWhile CodePoint.isDecimalDigit
    let digits (t : Text) : Bool := !t.isEmpty && t.all CodePoint.isDecimalDigit
    c = dash && (digits body ||
      match tail with
      | [] => false
      | p :: fraction => p.is '.' && digits fraction)

/-- What a word that names no option exactly may stand for. A word with two dashes is a shortened
name, perhaps with an argument. A word with one dash is a name of one letter with its argument
behind it, or a shortened name. -/
def candidates (g : Grammar Settings) (t : Text) :
    List (Text × OptionRule Settings × Option Text) :=
  if t.take 2 = separatorText then
    let (start, attached) := splitEquals t
    (g.names.filter fun (name, _) => start.isPrefixOf name).map fun (name, rule) =>
      (name, rule, attached)
  else
    g.names.filterMap fun (name, rule) =>
      if name = t.take 2 then some (name, rule, some (t.drop 2))
      else if t.isPrefixOf name then some (name, rule, none)
      else none

def Word.of (g : Grammar Settings) (t : Text) : Except UsageFault (Word Settings) :=
  if t.head? ≠ some dash ∨ t = [dash] then .ok (.operand t)
  else
    match g.find? t with
    | some rule => .ok (.option rule t none)
    | none =>
      let (name, attached) := splitEquals t
      match attached, g.find? name with
      | some attached, some rule => .ok (.option rule name (some attached))
      | _, _ =>
        match candidates g t with
        | [(name, rule, attached)] => .ok (.option rule name attached)
        | [] =>
          .ok (if isNegativeNumber t || t.any (CodePoint.is · ' ') then .operand t
            else .unknown t)
        | several => .error (.ambiguous t (several.map (·.1)))

def Word.ofAll (g : Grammar Settings) : List Text → Except UsageFault (List (Word Settings))
  | [] => .ok []
  | t :: rest =>
    if t = separatorText then .ok (.separator :: rest.map .operand)
    else do
      let word ← Word.of g t
      return word :: (← Word.ofAll g rest)

end RecordStream.Command
