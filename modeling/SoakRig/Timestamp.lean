import SoakRig.Decimal.Digits

/-!
# Timestamps

The text of a time of day: date and time in the calendar of today, with microseconds.
-/

namespace SoakRig.Timestamp

/-- The milliseconds of a day. -/
def perDay : Int := 86400000

/-- The days of four hundred years. -/
def perEra : Int := 146097

/-- The year of an era that a day of the era falls into. Years start in March. -/
def yearOfEra (day : Int) : Int := (day - day / 1460 + day / 36524 - day / 146096) / 365

/-- Year, month and day of a number of days since the first of January 1970. -/
def date (days : Int) : Int × Int × Int :=
  let shifted := days + 719468
  let day := shifted % perEra
  let year := yearOfEra day
  let dayOfYear := day - (365 * year + year / 4 - year / 100)
  let month := (5 * dayOfYear + 2) / 153
  let first := (153 * month + 2) / 5
  let calendarMonth := if month < 10 then month + 3 else month - 9
  let calendarYear := year + shifted / perEra * 400 + if calendarMonth ≤ 2 then 1 else 0
  (calendarYear, calendarMonth, dayOfYear - first + 1)

/-- A number with at least so many digits. -/
def digits (width : Nat) (n : Int) : String := String.ofList (Decimal.padded width n.toNat)

/-- The text of a time of day in milliseconds since the first of January 1970. -/
def render (milliseconds : Int) : String :=
  let (year, month, day) := date (milliseconds / perDay)
  let rest := milliseconds % perDay
  digits 4 year ++ "-" ++ digits 2 month ++ "-" ++ digits 2 day ++ "T" ++
    digits 2 (rest / 3600000) ++ ":" ++ digits 2 (rest / 60000 % 60) ++ ":" ++
    digits 2 (rest / 1000 % 60) ++ "." ++ digits 6 (rest % 1000 * 1000) ++ "Z"

end SoakRig.Timestamp
