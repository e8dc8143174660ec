import RecordStream.Text.Decimal

/-!
Integers as people type them: blanks around the number, a sign, single underscores between
digits, and the decimal digits of any script of Unicode 14.
-/

namespace RecordStream

namespace CodePoint

/-- The zeros of all scripts that have decimal digits; the other nine digits follow each zero. -/
def decimalZeros : List Nat :=
  [ 0x30, 0x660, 0x6F0, 0x7C0, 0x966, 0x9E6, 0xA66, 0xAE6, 0xB66, 0xBE6, 0xC66, 0xCE6, 0xD66, 0xDE6,
    0xE50, 0xED0, 0xF20, 0x1040, 0x1090, 0x17E0, 0x1810, 0x1946, 0x19D0, 0x1A80, 0x1A90, 0x1B50,
    0x1BB0, 0x1C40, 0x1C50, 0xA620, 0xA8D0, 0xA900, 0xA9D0, 0xA9F0, 0xAA50, 0xABF0, 0xFF10, 0x104A0,
    0x10D30, 0x11066, 0x110F0, 0x11136, 0x111D0, 0x112F0, 0x11450, 0x114D0, 0x11650, 0x116C0,
    0x11730, 0x118E0, 0x11950, 0x11C50, 0x11D50, 0x11DA0, 0x16A60, 0x16AC0, 0x16B50, 0x1D7CE,
    0x1D7D8, 0x1D7E2, 0x1D7EC, 0x1D7F6, 0x1E140, 0x1E2F0, 0x1E950, 0x1FBF0 ]

def decimalDigit? (c : CodePoint) : Option Nat :=
  (decimalZeros.find? fun z => z ≤ c.val && c.val < z + 10).map (c.val - ·)

def isDecimalDigit (c : CodePoint) : Bool := c.decimalDigit?.isSome

/-- Blanks, tabs, line ends and the space separators outside ASCII. -/
def isBlank (c : CodePoint) : Bool :=
  (0x09 ≤ c.val && c.val ≤ 0x0D) || c.val == 0x20 || c.val == 0x85 || c.val == 0xA0
    || c.val == 0x1680 || (0x2000 ≤ c.val && c.val ≤ 0x200A) || c.val == 0x2028
    || c.val == 0x2029 || c.val == 0x202F || c.val == 0x205F || c.val == 0x3000

end CodePoint

namespace TypedInteger

/-- The digits in front of a text, with single underscores between them, as digit values, and the
rest of the text. An underscore may stand only between two digits. -/
def digitValues (afterDigit : Bool) : Text → Option (List Nat × Text)
  | [] => if afterDigit then some ([], []) else none
  | c :: rest =>
    if c.is '_' then if afterDigit then digitValues false rest else none
    else
      match c.decimalDigit? with
      | some d => (digitValues true rest).map fun (ds, rest) => (d :: ds, rest)
      | none => if afterDigit then some ([], c :: rest) else none

inductive Fault
  | malformed
  | digits (limit : DigitLimit)
deriving DecidableEq

/-- The number a text begins with; only blanks may stand behind it. Too many digits are the first
thing to be noticed, whatever stands behind them. -/
def readUnsigned (t : Text) : Except Fault Nat :=
  match digitValues false t with
  | none => .error .malformed
  | some (ds, rest) =>
    if Decimal.maxDigits < ds.length then .error (.digits (.reading ds.length))
    else if rest.all CodePoint.isBlank then .ok (ds.foldl (fun n d => 10 * n + d) 0)
    else .error .malformed

/-- The integer a person typed. -/
def read (t : Text) : Except Fault Int :=
  match t.dropWhile CodePoint.isBlank with
  | [] => .error .malformed
  | c :: rest =>
    if c.is '-' then (readUnsigned rest).map fun n => -(n : Int)
    else if c.is '+' then (readUnsigned rest).map fun n => (n : Int)
    else (readUnsigned (c :: rest)).map fun n => (n : Int)

end TypedInteger

end RecordStream
