import RecordStream.Binary64.Number
import RecordStream.Text.Decimal

/-!
Moments as log lines show them: date and time of day in universal time, and milliseconds. The
calendar reaches as far as years can be counted in 32 bits.
-/

namespace RecordStream

/-- A moment in seconds since the start of 1970, and the milliseconds shown for it. -/
structure Moment where
  seconds : Int
  milliseconds : Int
deriving DecidableEq

namespace Moment

/-- A decimal number with zeros between its sign and its digits, up to `width`. -/
def padded (width : Nat) (n : Int) : Text :=
  if n < 0 then CodePoint.ofChar '-' :: Text.padZeros (width - 1) (Decimal.ofNat n.natAbs)
  else Text.padZeros width (Decimal.ofNat n.natAbs)

/-- Year, month and day of a day counted from the start of 1970. The count is moved to the first
of March of the year zero, so that a leap day is the last day of its year. -/
def civilDate (day : Int) : Int × Int × Int :=
  let d := day + 719468
  let era := Int.fdiv d 146097
  let dayOfEra := d - era * 146097
  let yearOfEra :=
    (dayOfEra - dayOfEra / 1460 + dayOfEra / 36524 - dayOfEra / 146096) / 365
  let dayOfYear := dayOfEra - (365 * yearOfEra + yearOfEra / 4 - yearOfEra / 100)
  let shifted := (5 * dayOfYear + 2) / 153
  let month := if shifted < 10 then shifted + 3 else shifted - 9
  let year := yearOfEra + era * 400 + (if month ≤ 2 then 1 else 0)
  (year, month, dayOfYear - (153 * shifted + 2) / 5 + 1)

/-- Date and time of day in universal time, with milliseconds. -/
def text (m : Moment) : Text :=
  let day := Int.fdiv m.seconds 86400
  let second := m.seconds - day * 86400
  let (year, month, dayOfMonth) := civilDate day
  Decimal.ofInt year ++ "-" ++ padded 2 month ++ "-" ++ padded 2 dayOfMonth ++ " "
    ++ padded 2 (second / 3600) ++ ":" ++ padded 2 (second / 60 % 60) ++ ":"
    ++ padded 2 (second % 60) ++ "." ++ padded 3 m.milliseconds

end Moment

inductive MomentFault
  | notANumber
  /-- The seconds do not fit into 64 bits. -/
  | clockRange
  /-- The year is outside the calendar. -/
  | calendarRange
  | yearRange
  | millisecondsNaN
  | millisecondsInfinite
deriving DecidableEq

def MomentFault.message : MomentFault → Text
  | .notANumber => "Invalid value NaN (not a number)"
  | .clockRange => "timestamp out of range for platform time_t"
  | .calendarRange => "[Errno 75] Value too large for defined data type"
  | .yearRange => "signed integer is greater than maximum"
  | .millisecondsNaN => "cannot convert float NaN to integer"
  | .millisecondsInfinite => "cannot convert float infinity to integer"

namespace Moment

def lastYear : Int := 2147483647

/-- Calendars count years from 1900 in 32 bits. -/
def calendarStart : Int := 1900

/-- Seconds of the clock, unless they are outside the calendar. -/
def checkSeconds (seconds : Int) : Except MomentFault Int :=
  let (year, _, _) := civilDate (Int.fdiv seconds 86400)
  if seconds < -2 ^ 63 ∨ 2 ^ 63 ≤ seconds then .error .clockRange
  else if year - calendarStart < -2 ^ 31 ∨ 2 ^ 31 ≤ year - calendarStart then .error .calendarRange
  else if lastYear < year then .error .yearRange
  else .ok seconds

/-- The moment that a clock shows. Seconds are rounded down, milliseconds toward zero. -/
def ofClock (seconds milliseconds : Number) : Except MomentFault Moment :=
  if seconds.isNaN then .error .notANumber
  else if seconds.isInfinite then .error .clockRange
  else
    match checkSeconds seconds.floor with
    | .error fault => .error fault
    | .ok seconds =>
      if milliseconds.isNaN then .error .millisecondsNaN
      else if milliseconds.isInfinite then .error .millisecondsInfinite
      else .ok { seconds, milliseconds := milliseconds.truncate }

end Moment

end RecordStream
