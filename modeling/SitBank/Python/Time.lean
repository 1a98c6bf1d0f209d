import Mathlib.Data.Int.Notation
import Mathlib.Data.Nat.Notation

/-!
`datetime.isoformat` for timestamps in UTC, which are counted in microseconds from
the epoch.
-/

namespace SitBank.Python

/-- Year, month and day of the proleptic Gregorian calendar; days are counted
from the epoch. The computation starts the year in March. -/
def civilFromDays (days : ℤ) : ℤ × ℤ × ℤ :=
  let shifted := days + 719468
  let era := shifted / 146097
  let dayOfEra := shifted % 146097
  let yearOfEra := (dayOfEra - dayOfEra / 1460 + dayOfEra / 36524 - dayOfEra / 146096) / 365
  let dayOfYear := dayOfEra - (365 * yearOfEra + yearOfEra / 4 - yearOfEra / 100)
  let monthIndex := (5 * dayOfYear + 2) / 153
  let day := dayOfYear - (153 * monthIndex + 2) / 5 + 1
  let month := if monthIndex < 10 then monthIndex + 3 else monthIndex - 9
  let year := yearOfEra + era * 400
  (if month ≤ 2 then year + 1 else year, month, day)

/-- Decimal digits, filled with zeros on the left. -/
def zeroFill (width : ℕ) (n : ℤ) : String :=
  let digits := Nat.toDigits 10 n.natAbs
  String.ofList (List.replicate (width - digits.length) '0' ++ digits)

/-- The fraction is left out when it is zero. -/
def fraction (micros : ℤ) : String := if micros = 0 then "" else "." ++ zeroFill 6 micros

/-- `value.isoformat()` without the offset. -/
def isoFormat (instant : ℤ) : String :=
  let seconds := instant / 1000000
  let (year, month, day) := civilFromDays (seconds / 86400)
  let second := seconds % 86400
  zeroFill 4 year ++ "-" ++ zeroFill 2 month ++ "-" ++ zeroFill 2 day ++ "T" ++
    zeroFill 2 (second / 3600) ++ ":" ++ zeroFill 2 (second / 60 % 60) ++ ":" ++
    zeroFill 2 (second % 60) ++ fraction (instant % 1000000)

/-- `value.isoformat(timespec="microseconds")` without the offset. -/
def isoFormatMicroseconds (instant : ℤ) : String :=
  isoFormat (instant - instant % 1000000) ++ "." ++ zeroFill 6 (instant % 1000000)

example : isoFormat 951782400000001 = "2000-02-29T00:00:00.000001" := by decide +kernel

end SitBank.Python
