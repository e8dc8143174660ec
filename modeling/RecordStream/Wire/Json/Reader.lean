import RecordStream.Text.Decimal
import RecordStream.Text.Utf16
import RecordStream.Value.Basic

/-!
JSON texts. Beyond the standard the words `NaN`, `Infinity` and `-Infinity` are numbers, a
surrogate may be escaped alone, and of equal keys the last one counts.
-/

namespace RecordStream.Json

inductive Complaint
  | value
  | propertyName
  | colon
  | comma
  | extraData
  | unterminatedString
  | controlCharacter
  | escape
  | unicodeEscape
deriving DecidableEq

def Complaint.text : Complaint → Text
  | .value => "Expecting value"
  | .propertyName => "Expecting property name enclosed in double quotes"
  | .colon => "Expecting ':' delimiter"
  | .comma => "Expecting ',' delimiter"
  | .extraData => "Extra data"
  | .unterminatedString => "Unterminated string starting at"
  | .controlCharacter => "Invalid control character at"
  | .escape => "Invalid \\escape"
  | .unicodeEscape => "Invalid \\uXXXX escape"

/-- Why reading stopped. The place of a complaint is what was left of the text there. -/
inductive Halt
  | complaint (c : Complaint) (left : Text)
  | digits (limit : DigitLimit)

abbrev Result (α : Type) := Except Halt (α × Text)

def isSpace (c : CodePoint) : Bool :=
  c.val == 0x20 || c.val == 0x09 || c.val == 0x0A || c.val == 0x0D

def skipSpace (t : Text) : Text := t.dropWhile isSpace

def hexDigit? (c : CodePoint) : Option Nat :=
  if c.isDigit then some (c.val - 0x30)
  else if 0x41 ≤ c.val ∧ c.val ≤ 0x46 then some (c.val - 0x37)
  else if 0x61 ≤ c.val ∧ c.val ≤ 0x66 then some (c.val - 0x57)
  else none

def hexUnit? (a b c d : CodePoint) : Option Nat := do
  let a ← hexDigit? a
  let b ← hexDigit? b
  let c ← hexDigit? c
  let d ← hexDigit? d
  return ((a * 16 + b) * 16 + c) * 16 + d

def letterValue? (c : CodePoint) : Option CodePoint :=
  if c.is '"' ∨ c.is '\\' ∨ c.is '/' then some c
  else if c.is 'b' then some (CodePoint.ofNat 0x08)
  else if c.is 'f' then some (CodePoint.ofNat 0x0C)
  else if c.is 'n' then some (CodePoint.ofNat 0x0A)
  else if c.is 'r' then some (CodePoint.ofNat 0x0D)
  else if c.is 't' then some (CodePoint.ofNat 0x09)
  else none

/-- The unit of four hexadecimal digits at the front. The text has to go on behind them. -/
def unitAt? : Text → Option Nat
  | a :: b :: c :: d :: _ :: _ => hexUnit? a b c d
  | _ => none

/-- The low surrogate that a second escape right behind a first one adds, if it is one. `none` is
a second escape without four digits; an escape that ends the text is none at all. -/
def lowAt (t : Text) : Option (Option Nat) :=
  match t with
  | a :: b :: c :: d :: e :: f :: _ :: _ =>
    if a.is '\\' ∧ b.is 'u' then
      match hexUnit? c d e f with
      | none => none
      | some u => some (if Utf16.isLow u then some u else none)
    else some none
  | _ => some none

/-- The code point of an escape and the number of code points behind the backslash that it takes
up; `t` starts behind the backslash and is not empty. -/
def escapeAt (t : Text) : Except Halt (CodePoint × Nat) :=
  match t with
  | [] => .error (.complaint .escape t)
  | e :: rest =>
    if e.is 'u' then
      match unitAt? rest with
      | none => .error (.complaint .unicodeEscape t)
      | some u =>
        if Utf16.isHigh u then
          match lowAt (rest.drop 4) with
          | none => .error (.complaint .unicodeEscape (rest.drop 5))
          | some none => .ok (CodePoint.ofNat u, 5)
          | some (some v) => .ok (CodePoint.ofNat (Utf16.join u v), 11)
        else .ok (CodePoint.ofNat u, 5)
    else
      match letterValue? e with
      | some v => .ok (v, 1)
      | none => .error (.complaint .escape t)

/-- The rest of a string behind its opening quote. `opening` is the text from that quote on,
`done` is what was read, last code point first, and so many code points at the front belong to an
escape that was read already. -/
def stringFrom (opening done : Text) (skip : Nat) : Text → Result Text
  | [] => .error (.complaint .unterminatedString opening)
  | c :: rest =>
    match skip with
    | k + 1 => stringFrom opening done k rest
    | 0 =>
      if c.is '"' then .ok (done.reverse, rest)
      else if c.is '\\' then
        if rest = [] then .error (.complaint .unterminatedString opening)
        else
          match escapeAt rest with
          | .ok (v, length) => stringFrom opening (v :: done) length rest
          | .error (.complaint .escape _) => .error (.complaint .escape (c :: rest))
          | .error halt => .error halt
      else if c.val ≤ 0x1F then .error (.complaint .controlCharacter (c :: rest))
      else stringFrom opening (c :: done) 0 rest

/-- The integer digits at the front: a zero alone, or a run that starts with no zero. -/
def integerDigits (t : Text) : Text × Text :=
  match t with
  | [] => ([], [])
  | c :: rest =>
    if c.is '0' then ([c], rest)
    else (t.takeWhile CodePoint.isDigit, t.dropWhile CodePoint.isDigit)

/-- A point with at least one digit behind it: those digits. -/
def fractionDigits? (t : Text) : Option (Text × Text) :=
  match t with
  | [] => none
  | c :: rest =>
    let digits := rest.takeWhile CodePoint.isDigit
    if c.is '.' ∧ digits ≠ [] then some (digits, rest.dropWhile CodePoint.isDigit) else none

def exponent? (t : Text) : Option (Int × Text) :=
  match t with
  | [] => none
  | c :: rest =>
    if c.is 'e' ∨ c.is 'E' then
      let (negative, rest) :=
        match rest with
        | [] => (false, rest)
        | s :: rest' =>
          if s.is '-' then (true, rest') else if s.is '+' then (false, rest') else (false, rest)
      let digits := rest.takeWhile CodePoint.isDigit
      if digits ≠ [] then
        let n : Int := Decimal.value digits
        some (if negative then -n else n, rest.dropWhile CodePoint.isDigit)
      else none
    else none

def number (t : Text) : Result Value :=
  let (isNegative, unsigned) :=
    match t with
    | [] => (false, t)
    | c :: rest => if c.is '-' then (true, rest) else (false, t)
  let (whole, rest) := integerDigits unsigned
  if whole = [] then .error (.complaint .value t)
  else
    let fraction := fractionDigits? rest
    let (places, rest₁) := fraction.getD ([], rest)
    let power := exponent? rest₁
    let (e, rest₂) := power.getD (0, rest₁)
    if fraction.isNone ∧ power.isNone then
      match Decimal.read whole with
      | .ok n => .ok (.int (if isNegative then -(n : Int) else n), rest)
      | .error limit => .error (.digits limit)
    else
      let x := Binary64.ofDecimal isNegative (Decimal.value (whole ++ places))
        (e - (places.length : Int))
      .ok (.float x, rest₂)

/-- What is left behind a word at the front. -/
def word? (word : Text) (t : Text) : Option Text :=
  if word.isPrefixOf t then some (t.drop word.length) else none

def words : List (Text × Value) :=
  [("null", .null), ("true", .bool true), ("false", .bool false), ("NaN", .float Binary64.nan),
    ("Infinity", .float (Binary64.infinity false)), ("-Infinity", .float (Binary64.infinity true))]

def scalar (t : Text) : Result Value :=
  match words.findSome? fun (word, v) => (word? word t).map fun rest => (v, rest) with
  | some found => .ok found
  | none => number t

mutual

/-- The value at the front of the text. Every call has less `fuel`; twice the length of the text
is enough. -/
def value (fuel : Nat) (t : Text) : Result Value :=
  match fuel, t with
  | fuel + 1, c :: rest =>
    if c.is '"' then
      match stringFrom t [] 0 rest with
      | .ok (s, rest) => .ok (.text s, rest)
      | .error halt => .error halt
    else if c.val = 0x7B then
      match skipSpace rest with
      | [] => members fuel [] []
      | d :: rest => if d.val = 0x7D then .ok (.map [], rest) else members fuel [] (d :: rest)
    else if c.is '[' then
      match skipSpace rest with
      | [] => items fuel [] []
      | d :: rest => if d.is ']' then .ok (.list [], rest) else items fuel [] (d :: rest)
    else scalar t
  | _, _ => .error (.complaint .value t)

def members (fuel : Nat) (done : List (Value × Value)) (t : Text) : Result Value :=
  match fuel, t with
  | fuel + 1, c :: rest =>
    if c.is '"' then
      match stringFrom t [] 0 rest with
      | .error halt => .error halt
      | .ok (name, rest) =>
        match skipSpace rest with
        | [] => .error (.complaint .colon [])
        | d :: rest =>
          if d.is ':' then
            match value fuel (skipSpace rest) with
            | .error halt => .error halt
            | .ok (v, rest) =>
              let done := Value.insert done (.text name) v
              match skipSpace rest with
              | [] => .error (.complaint .comma [])
              | e :: rest =>
                if e.val = 0x7D then .ok (.map done, rest)
                else if e.is ',' then members fuel done (skipSpace rest)
                else .error (.complaint .comma (e :: rest))
          else .error (.complaint .colon (d :: rest))
    else .error (.complaint .propertyName t)
  | _, _ => .error (.complaint .propertyName t)

/-- The items of an array from the next one on; `done` holds the last one first. -/
def items (fuel : Nat) (done : List Value) (t : Text) : Result Value :=
  match fuel with
  | 0 => .error (.complaint .value t)
  | fuel + 1 =>
    match value fuel t with
    | .error halt => .error halt
    | .ok (v, rest) =>
      match skipSpace rest with
      | [] => .error (.complaint .comma [])
      | e :: rest =>
        if e.is ']' then .ok (.list (v :: done).reverse, rest)
        else if e.is ',' then items fuel (v :: done) (skipSpace rest)
        else .error (.complaint .comma (e :: rest))

end

inductive SyntaxFault
  | complaint (c : Complaint) (position : Nat)
  | digits (limit : DigitLimit)
deriving DecidableEq

/-- The text is a single line. -/
def SyntaxFault.message : SyntaxFault → Text
  | .complaint c position =>
    c.text ++ ": line 1 column " ++ Decimal.ofNat (position + 1) ++ " (char "
      ++ Decimal.ofNat position ++ ")"
  | .digits limit => limit.message

def read (t : Text) : Except SyntaxFault Value :=
  let halted : Halt → SyntaxFault
    | .complaint c left => .complaint c (t.length - left.length)
    | .digits limit => .digits limit
  match value (2 * t.length + 2) (skipSpace t) with
  | .error halt => .error (halted halt)
  | .ok (v, rest) =>
    match skipSpace rest with
    | [] => .ok v
    | left => .error (halted (.complaint .extraData left))

end RecordStream.Json
