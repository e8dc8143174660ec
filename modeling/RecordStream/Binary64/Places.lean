import RecordStream.Binary64.Basic
import RecordStream.Text.Decimal

/-!
Numbers with a fixed count of decimal places, rounded from their exact value; a half goes to the
even neighbour.
-/

namespace RecordStream.Binary64

def placePoint (places : Nat) (units : Nat) : Text :=
  let digits := Text.padZeros (places + 1) (Decimal.ofNat units)
  let whole := digits.length - places
  if places = 0 then digits
  else digits.take whole ++ CodePoint.ofChar '.' :: digits.drop whole

/-- The number with exactly `places` decimals; the sign stays even when all digits are zero. -/
def toPlaces (places : Nat) (x : Binary64) : Text :=
  if x.isNaN then "nan"
  else
    let sign : Text := if x.isNegative then "-" else ""
    if x.isInfinite then sign ++ "inf"
    else
      let (n, d) := scale x.significand x.exponent
      sign ++ placePoint places (roundQuotient (n * 10 ^ places) d)

end RecordStream.Binary64
