/-
Ontograph.Time.Instant — points in time and their written form.

An instant counts seconds from the start of 1970, without leap seconds, and
nanoseconds within the second; a second of leap is the last second of a minute
with a thousand million nanoseconds more. Dates are those of the Gregorian
calendar, extended to all years.
-/
import Ontograph.Number.Decimal

namespace Ontograph

structure Instant where
  seconds : Int
  nanoseconds : Nat
  deriving DecidableEq, Repr

namespace Instant

/-- A year, month and day from the number of days since the start of 1970. The count is by eras of
four hundred years, each of which starts in March, so that a leap day is the last of its year. -/
def dateOfDays (days : Int) : Int × Nat × Nat :=
  let shifted := days + 719468
  let era := shifted.fdiv 146097
  let dayOfEra := (shifted - era * 146097).toNat
  let yearOfEra :=
    (dayOfEra - dayOfEra / 1460 + dayOfEra / 36524 - dayOfEra / 146096) / 365
  let dayOfYear := dayOfEra - (365 * yearOfEra + yearOfEra / 4 - yearOfEra / 100)
  let shiftedMonth := (5 * dayOfYear + 2) / 153
  let day := dayOfYear - (153 * shiftedMonth + 2) / 5 + 1
  let month := if shiftedMonth < 10 then shiftedMonth + 3 else shiftedMonth - 9
  let year := era * 400 + yearOfEra + (if month ≤ 2 then 1 else 0)
  (year, month, day)

/-- A natural number in at least `width` digits. -/
def padded (width n : Nat) : String :=
  let digits := Nat.toDigits 10 n
  String.ofList (List.replicate (width - digits.length) '0' ++ digits)

/-- A year in four digits; years beyond them, and those before the year zero, carry a sign. -/
def yearText (year : Int) : String :=
  if 0 ≤ year ∧ year ≤ 9999 then padded 4 year.toNat
  else (if year < 0 then "-" else "+") ++ padded 4 year.natAbs

/-- The fraction of a second in no, three, six or nine digits, as few as are exact. -/
def fractionText (nanoseconds : Nat) : String :=
  if nanoseconds = 0 then ""
  else if nanoseconds % 1000000 = 0 then "." ++ padded 3 (nanoseconds / 1000000)
  else if nanoseconds % 1000 = 0 then "." ++ padded 6 (nanoseconds / 1000)
  else "." ++ padded 9 nanoseconds

def text (mark : String) (t : Instant) : String :=
  let day := t.seconds.fdiv 86400
  let second := (t.seconds - day * 86400).toNat
  let (year, month, dayOfMonth) := dateOfDays day
  let leap := if 1000000000 ≤ t.nanoseconds then 1 else 0
  yearText year ++ "-" ++ padded 2 month ++ "-" ++ padded 2 dayOfMonth ++ "T" ++
    padded 2 (second / 3600) ++ ":" ++ padded 2 (second / 60 % 60) ++ ":" ++
    padded 2 (second % 60 + leap) ++ fractionText (t.nanoseconds - leap * 1000000000) ++ mark

/-- The form with a numeric offset, which running text and properties use. -/
def displayText (t : Instant) : String := t.text "+00:00"

/-- The form with the letter for universal time, which documents use. -/
def documentText (t : Instant) : String := t.text "Z"

end Instant

end Ontograph
