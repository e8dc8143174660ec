import RecordStream.Binary64.Basic
import RecordStream.Text.Decimal

/-!
The shortest decimal text of a double-precision number. The digits are the fewest that still
round to the number; among equally short candidates the nearest one is taken, and of two equally
near ones the even one.
-/

namespace RecordStream.Binary64

/-- Decimal digits with the power of ten of the digit in front. -/
structure Digits where
  digits : Nat
  leading : Int

/-- `a * 10 ^ e` as a quotient of natural numbers. -/
def scaleTen (a : Nat) (e : Int) : Nat × Nat :=
  if 0 ≤ e then (a * 10 ^ e.toNat, 1) else (a, 10 ^ (-e).toNat)

/-- Is the quotient at least `10 ^ e`? -/
def reaches (num den : Nat) (e : Int) : Bool :=
  let (n, d) := scaleTen num (-e)
  d * den ≤ n

def leadingPower (num den : Nat) : Int :=
  let guess := Int.fdiv (((Nat.log2 num : Int) - (Nat.log2 den : Int)) * 30103) 100000
  if reaches num den (guess + 1) then guess + 1
  else if reaches num den guess then guess
  else guess - 1

/-- Four times the number and the two ends of the interval of values that round to it, in
quarters of its last binary place. -/
structure Interval where
  low : Nat
  middle : Nat
  high : Nat
  /-- The ends themselves round to the number. -/
  closed : Bool

/-- Below a power of two the grid is finer, so the interval is shorter on that side. -/
def interval (x : Binary64) : Interval :=
  let m := x.significand
  let short := m = 0x10000000000000 ∧ -1074 < x.exponent
  { low := if short then 4 * m - 1 else 4 * m - 2
    middle := 4 * m
    high := 4 * m + 2
    closed := m % 2 == 0 }

/-- Does `candidate * scale` lie in the interval, both in the same unit? -/
def Interval.holds (i : Interval) (unit candidate : Nat) : Bool :=
  let low := i.low * unit
  let high := i.high * unit
  if i.closed then low ≤ candidate && candidate ≤ high
  else low < candidate && candidate < high

/-- The better of the two decimals with `count` digits around the number, if one rounds to it. -/
def shortestWith (x : Binary64) (power : Int) (count : Nat) : Option Digits :=
  let i := interval x
  -- In units of `10 ^ step` a candidate is a whole number; a quarter place is `n / d` of them.
  let step := power - (count : Int) + 1
  let (bn, bd) := scale 1 (x.exponent - 2)
  let (tn, td) := scaleTen 1 (-step)
  let n := bn * tn
  let d := bd * td
  let below := i.middle * n / d
  let rest := i.middle * n % d
  let fits (c : Nat) := i.holds n (c * d)
  let upper := decide (d < 2 * rest) || (2 * rest == d && below % 2 == 1)
  let choice :=
    if fits below && fits (below + 1) then some (if upper then below + 1 else below)
    else if fits below then some below
    else if fits (below + 1) then some (below + 1)
    else none
  choice.map fun c =>
    if c = 10 ^ count then { digits := 10 ^ (count - 1), leading := power + 1 }
    else { digits := c, leading := power }

/-- The shortest digits of a positive finite number; seventeen always suffice. -/
def shortestDigits (x : Binary64) : Digits :=
  let (n, d) := scale x.significand x.exponent
  let power := leadingPower n d
  ((List.range 17).findSome? fun k => shortestWith x power (k + 1)).getD
    { digits := 0, leading := 0 }

/-- The exponent has a sign and at least two digits. -/
def exponentText (e : Int) : Text :=
  (if e < 0 then "e-" else "e+") ++ Text.padZeros 2 (Decimal.ofNat e.natAbs)

/-- Numbers from a ten-thousandth up to `10 ^ 16` are written with a point and no exponent, and
whole ones end in `.0`. -/
def layout (s : Digits) : Text :=
  let digits := Decimal.ofNat s.digits
  if s.leading < -4 ∨ 16 ≤ s.leading then
    let tail := digits.drop 1
    digits.take 1 ++ (if tail.isEmpty then [] else CodePoint.ofChar '.' :: tail)
      ++ exponentText s.leading
  else if s.leading < 0 then
    "0." ++ List.replicate (-s.leading - 1).toNat (CodePoint.ofChar '0') ++ digits
  else
    let whole := s.leading.toNat + 1
    let padded := digits ++ List.replicate (whole - digits.length) (CodePoint.ofChar '0')
    let tail := padded.drop whole
    let places : Text := if tail.isEmpty then "0" else tail
    padded.take whole ++ CodePoint.ofChar '.' :: places

/-- The shortest text that reads back as the number. -/
def shortest (x : Binary64) : Text :=
  if x.isNaN then "nan"
  else
    let sign : Text := if x.isNegative then "-" else ""
    if x.isInfinite then sign ++ "inf"
    else if x.isZero then sign ++ "0.0"
    else sign ++ layout (shortestDigits x)

end RecordStream.Binary64
