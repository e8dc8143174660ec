import RecordStream.Text.Basic

/-!
Decimal numbers as text. Numbers of more than 4300 digits are neither read nor written: reading
counts every digit, leading zeros included, and writing counts the digits of the absolute value.
-/

namespace RecordStream

/-- Why a number and its decimal text could not be turned into each other. -/
inductive DigitLimit
  | reading (digits : Nat)
  | writing
deriving DecidableEq

namespace Decimal

def maxDigits : Nat := 4300

def ofNat (n : Nat) : Text := (Nat.toDigits 10 n).map CodePoint.ofChar

def ofInt (n : Int) : Text :=
  if n < 0 then CodePoint.ofChar '-' :: ofNat n.natAbs else ofNat n.natAbs

/-- Can this number be written within the limit? -/
def fits (n : Int) : Bool := (ofNat n.natAbs).length ≤ maxDigits

def write (n : Int) : Except DigitLimit Text :=
  if fits n then .ok (ofInt n) else .error .writing

def value (digits : Text) : Nat := digits.foldl (fun n c => 10 * n + (c.val - 0x30)) 0

/-- One or more ASCII digits and nothing else. -/
def isNumeral (t : Text) : Bool := !t.isEmpty && t.all CodePoint.isDigit

/-- The number a run of digits stands for, if the run is not too long. -/
def read (digits : Text) : Except DigitLimit Nat :=
  if digits.length ≤ maxDigits then .ok (value digits) else .error (.reading digits.length)

end Decimal

namespace DigitLimit

def message : DigitLimit → Text
  | .reading digits =>
    "Exceeds the limit (4300 digits) for integer string conversion: value has "
      ++ Decimal.ofNat digits ++ " digits; use sys.set_int_max_str_digits() to increase the limit"
  | .writing =>
    "Exceeds the limit (4300 digits) for integer string conversion; use "
      ++ "sys.set_int_max_str_digits() to increase the limit"

end DigitLimit

end RecordStream
