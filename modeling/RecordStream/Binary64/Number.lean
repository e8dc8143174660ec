import RecordStream.Binary64.Basic
import RecordStream.Text.Basic

/-! Numbers that may be whole or have double precision, and quotients of integers by them. -/

namespace RecordStream

inductive Number
  | int (n : Int)
  | float (x : Binary64)
deriving DecidableEq

/-- A quotient that double precision cannot hold. -/
inductive QuotientFault
  | operandTooLarge
  | resultTooLarge
deriving DecidableEq

def QuotientFault.message : QuotientFault → Text
  | .operandTooLarge => "int too large to convert to float"
  | .resultTooLarge => "integer division result too large for a float"

namespace Number

def isPositive : Number → Bool
  | .int n => 0 < n
  | .float x => x.isPositive

/-- At most zero; not a number is neither this nor positive. -/
def isAtMostZero : Number → Bool
  | .int n => n ≤ 0
  | .float x => !x.isNaN && (x.isNegative || x.isZero)

def isNaN : Number → Bool
  | .int _ => false
  | .float x => x.isNaN

def isInfinite : Number → Bool
  | .int _ => false
  | .float x => x.isInfinite

def floor : Number → Int
  | .int n => n
  | .float x => x.units / 2 ^ 1074

def truncate : Number → Int
  | .int n => n
  | .float x => x.truncate

def toBinary64 : Number → Except QuotientFault Binary64
  | .int n =>
    match Binary64.ofInt? n with
    | some x => .ok x
    | none => .error .operandTooLarge
  | .float x => .ok x

/-- The quotient of two integers, rounded once; the divisor is not zero. -/
def divInt (a b : Int) : Except QuotientFault Binary64 :=
  let negative := decide (a < 0) != decide (b < 0) && a != 0
  let x := Binary64.ofQuotient negative a.natAbs b.natAbs
  if x.isInfinite then .error .resultTooLarge else .ok x

def divide (a : Int) : Number → Except QuotientFault Binary64
  | .int b => divInt a b
  | .float y =>
    match Binary64.ofInt? a with
    | some x => .ok (x.div y)
    | none => .error .operandTooLarge

end Number

end RecordStream
