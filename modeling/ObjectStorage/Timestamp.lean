import ObjectStorage.Text.Number

/-!
# Points in time

A timestamp counts seconds and nanoseconds from the start of 1970 in universal time, and is
written as a date and a time of the Gregorian calendar, which is extended to all years.

* `Timestamp` — the count;
* `Timestamp.date` — year, month and day of a day counted from the start of 1970;
* `Timestamp.rfc3339` — the written form, with the fewest of 0, 3, 6 or 9 decimals that lose
  nothing.
-/

namespace ObjectStorage

/-- A point in time: seconds since the start of 1970 and nanoseconds after them. -/
structure Timestamp where
  seconds : Int
  nanos : Nat
  deriving DecidableEq, Repr

namespace Timestamp

/-- Year, month and day of the day with a number.  Days are counted within eras of 400 years that
start in March, so that a leap day ends its year. -/
def date (day : Int) : Int × Nat × Nat :=
  let z := day + 719468
  let era := Int.fdiv z 146097
  let dayOfEra := Int.toNat (Int.fmod z 146097)
  let yearOfEra :=
    (dayOfEra - dayOfEra / 1460 + dayOfEra / 36524 - dayOfEra / 146096) / 365
  let dayOfYear := dayOfEra - (365 * yearOfEra + yearOfEra / 4 - yearOfEra / 100)
  let shifted := (5 * dayOfYear + 2) / 153
  let month := if shifted < 10 then shifted + 3 else shifted - 9
  let year := yearOfEra + era * 400 + if month ≤ 2 then 1 else 0
  (year, month, dayOfYear - (153 * shifted + 2) / 5 + 1)

/-- A year: four digits from 0 to 9999, a sign and at least four digits otherwise. -/
def yearText (year : Int) : String :=
  if 0 ≤ year ∧ year ≤ 9999 then Text.padded 4 year.toNat
  else (if year < 0 then "-" else "+") ++ Text.padded 4 year.natAbs

/-- The decimals of a second, the fewest of 0, 3, 6 or 9 that lose nothing. -/
def fraction (nanos : Nat) : String :=
  if nanos = 0 then ""
  else if nanos % 1000000 = 0 then "." ++ Text.padded 3 (nanos / 1000000)
  else if nanos % 1000 = 0 then "." ++ Text.padded 6 (nanos / 1000)
  else "." ++ Text.padded 9 nanos

/-- Date and time of day, without decimals and offset; a leap second is the sixtieth. -/
def dateTime (t : Timestamp) : String :=
  let (year, month, day) := date (Int.fdiv t.seconds 86400)
  let second := Int.toNat (Int.fmod t.seconds 86400)
  let leap := if t.nanos < 1000000000 then 0 else 1
  s!"{yearText year}-{Text.padded 2 month}-{Text.padded 2 day}T"
    ++ s!"{Text.padded 2 (second / 3600)}:{Text.padded 2 (second / 60 % 60)}:"
    ++ Text.padded 2 (second % 60 + leap)

/-- The written form of a timestamp. -/
def rfc3339 (t : Timestamp) : String :=
  t.dateTime ++ fraction (t.nanos % 1000000000) ++ "+00:00"

end Timestamp

end ObjectStorage
