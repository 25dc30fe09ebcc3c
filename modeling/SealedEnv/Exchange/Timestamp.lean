/-!
Contract: points in time as texts.

Owns:
- the date of a number of days since the beginning of 1970;
- `timestamp`, date and time of day in UTC.

Does not own: clocks.
-/

namespace SealedEnv.Exchange

def padded (width number : Nat) : String :=
  let digits := Nat.toDigits 10 number
  String.ofList (List.replicate (width - digits.length) '0' ++ digits)

/-- Year, month and day of a number of days since the beginning of 1970.  Years are counted from
March and in eras of four hundred, so that the day that comes and goes is the last one. -/
def dateOfDay (days : Nat) : Nat × Nat × Nat :=
  let shifted := days + 719468
  let dayOfEra := shifted % 146097
  let yearOfEra := (dayOfEra - dayOfEra / 1460 + dayOfEra / 36524 - dayOfEra / 146096) / 365
  let dayOfYear := dayOfEra - (365 * yearOfEra + yearOfEra / 4 - yearOfEra / 100)
  let month := (5 * dayOfYear + 2) / 153
  let day := dayOfYear - (153 * month + 2) / 5 + 1
  let year := yearOfEra + 400 * (shifted / 146097)
  if month < 10 then (year, month + 3, day) else (year + 1, month - 9, day)

/-- Date and time of a number of seconds since the beginning of 1970. -/
def timestamp (seconds : Nat) : String :=
  let (year, month, day) := dateOfDay (seconds / 86400)
  let time := seconds % 86400
  s!"{padded 4 year}-{padded 2 month}-{padded 2 day}T" ++
    s!"{padded 2 (time / 3600)}:{padded 2 (time / 60 % 60)}:{padded 2 (time % 60)}Z"

end SealedEnv.Exchange
