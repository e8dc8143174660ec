import RecordStream.Power

/-!
Double-precision numbers by their bit patterns, with exact rounding of quotients. A finite
number is `m * 2 ^ q`; every operation rounds its exact result once, to the nearest number and
on a tie to the one with an even significand.
-/

namespace RecordStream

/-- A double-precision number: sign bit, eleven exponent bits, fifty-two fraction bits. -/
structure Binary64 where
  bits : UInt64
deriving DecidableEq

namespace Binary64

def infinityBits : Nat := 0x7FF0000000000000

def isNegative (x : Binary64) : Bool := 0x8000000000000000 ≤ x.bits.toNat

/-- The bit pattern without the sign; it grows with the absolute value. -/
def magnitude (x : Binary64) : Nat := x.bits.toNat % 0x8000000000000000

def ofMagnitude (negative : Bool) (magnitude : Nat) : Binary64 :=
  ⟨UInt64.ofNat (if negative then 0x8000000000000000 + magnitude else magnitude)⟩

def zero : Binary64 := ⟨0⟩

def nan : Binary64 := ⟨0x7FF8000000000000⟩

def infinity (negative : Bool) : Binary64 := ofMagnitude negative infinityBits

def isNaN (x : Binary64) : Bool := infinityBits < x.magnitude

def isInfinite (x : Binary64) : Bool := x.magnitude == infinityBits

def isZero (x : Binary64) : Bool := x.magnitude == 0

/-- Greater than zero; false for both zeros and for NaN. -/
def isPositive (x : Binary64) : Bool := !x.isNegative && !x.isNaN && !x.isZero

/-- The integer significand of a finite number. -/
def significand (x : Binary64) : Nat :=
  if x.magnitude < 0x10000000000000 then x.magnitude
  else x.magnitude % 0x10000000000000 + 0x10000000000000

/-- The power of two by which the significand of a finite number is multiplied. -/
def exponent (x : Binary64) : Int :=
  max (x.magnitude / 0x10000000000000 : Nat) 1 - 1075

/-- `a * 2 ^ e` as a quotient of natural numbers. -/
def scale (a : Nat) (e : Int) : Nat × Nat :=
  if 0 ≤ e then (a * 2 ^ e.toNat, 1) else (a, 2 ^ (-e).toNat)

/-- The quotient rounded to a natural number; a half goes to the even neighbour. -/
def roundQuotient (num den : Nat) : Nat :=
  let below := num / den
  let twice := 2 * (num % den)
  if twice < den then below
  else if twice = den then below + below % 2
  else below + 1

/-- The exponent of the grid on which the quotient has fifty-three bits, but never below the
smallest exponent there is. -/
def gridExponent (num den : Nat) : Int :=
  let guess : Int := (Nat.log2 num : Int) - (Nat.log2 den : Int) - 52
  let (n, d) := scale num (-guess)
  let exact := if n < d * den * 0x10000000000000 then guess - 1 else guess
  max exact (-1074)

/-- The unsigned bit pattern of the number nearest to a positive quotient. -/
def nearestMagnitude (num den : Nat) : Nat :=
  if num = 0 then 0
  else
    let q := gridExponent num den
    if 972 < q then infinityBits
    else
      let (n, d) := scale num (-q)
      let m := roundQuotient n (d * den)
      -- Adding the significand to the exponent field carries when rounding reached 2 ^ 53.
      min ((q + 1074).toNat * 0x10000000000000 + m) infinityBits

/-- The number nearest to `num / den`, with the given sign. -/
def ofQuotient (negative : Bool) (num den : Nat) : Binary64 :=
  ofMagnitude negative (nearestMagnitude num den)

/-- The number nearest to `digits * 10 ^ e`. Far outside the range of the format the result is
zero or infinity whatever the digits are. -/
def ofDecimal (negative : Bool) (digits : Nat) (e : Int) : Binary64 :=
  if digits = 0 then ofMagnitude negative 0
  else
    let size : Int := Nat.log2 digits / 3 + e
    if size + 1 < -400 then ofMagnitude negative 0
    else if 400 < e then infinity negative
    else if 0 ≤ e then ofQuotient negative (digits * 10 ^ e.toNat) 1
    else ofQuotient negative digits (10 ^ (-e).toNat)

/-- The nearest number to an integer, or nothing when that would be infinite. -/
def ofInt? (n : Int) : Option Binary64 :=
  let x := ofQuotient (n < 0) n.natAbs 1
  if x.isInfinite then none else some x

/-- A single-precision bit pattern widened; no rounding takes place. -/
def ofSingleBits (bits : Nat) : Binary64 :=
  let negative := 0x80000000 ≤ bits
  let magnitude := bits % 0x80000000
  let fraction := magnitude % 0x800000
  if magnitude < 0x800000 then ofQuotient negative fraction (2 ^ 149)
  else if magnitude < 0x7F800000 then
    ofMagnitude negative (magnitude * 0x20000000 + 896 * 0x10000000000000)
  else ofMagnitude negative (infinityBits + fraction * 0x20000000)

/-- The integer part of a finite number, cut off toward zero. -/
def truncate (x : Binary64) : Int :=
  let (n, d) := scale x.significand x.exponent
  if x.isNegative then -(n / d : Nat) else (n / d : Nat)

def units (x : Binary64) : Int :=
  let m := x.significand * 2 ^ (x.exponent + 1074).toNat
  if x.isNegative then -(m : Nat) else (m : Nat)

/-- Difference of two numbers. Equal finite numbers give positive zero unless a negative zero
is left of a positive one. -/
def sub (x y : Binary64) : Binary64 :=
  if x.isNaN || y.isNaN then nan
  else if x.isInfinite then
    if y.isInfinite && x.isNegative == y.isNegative then nan else x
  else if y.isInfinite then infinity (!y.isNegative)
  else
    let d := x.units - y.units
    if d = 0 then ofMagnitude (x.isZero && x.isNegative && !y.isNegative) 0
    else ofQuotient (d < 0) d.natAbs (2 ^ 1074)

def div (x y : Binary64) : Binary64 :=
  let negative := x.isNegative != y.isNegative
  if x.isNaN || y.isNaN || (x.isInfinite && y.isInfinite) then nan
  else if x.isInfinite then infinity negative
  else if y.isInfinite then ofMagnitude negative 0
  else ofQuotient negative x.units.natAbs y.units.natAbs

end Binary64

end RecordStream
