/-!
# Stamps

A stamp tells a time of day of the civil calendar in universal time, down to the microsecond. Days are
counted in eras of four hundred years that begin in March, so that the day which some years have in
addition is the last one of its year.
-/

namespace FleetAgent

/-- A day of the civil calendar. -/
structure Day where
  year : Nat
  month : Nat
  day : Nat
  deriving DecidableEq, Repr

namespace Day

def perEra : Nat := 146097

/-- The days from the beginning of the first era to the year 1970. -/
def beforeEpoch : Nat := 719468

/-- The year of an era that a day of the era lies in, years beginning in March. -/
def yearOfEra (day : Nat) : Nat := (day - day / 1460 + day / 36524 - day / 146096) / 365

/-- The day that comes so many days after the first one of the year 1970. -/
def ofEpoch (count : Nat) : Day :=
  let days := count + beforeEpoch
  let dayOfEra := days % perEra
  let yearOfEra := yearOfEra dayOfEra
  let dayOfYear := dayOfEra - (365 * yearOfEra + yearOfEra / 4 - yearOfEra / 100)
  let monthFromMarch := (5 * dayOfYear + 2) / 153
  let month := if monthFromMarch < 10 then monthFromMarch + 3 else monthFromMarch - 9
  { year := yearOfEra + days / perEra * 400 + if month ≤ 2 then 1 else 0
    month
    day := dayOfYear - (153 * monthFromMarch + 2) / 5 + 1 }

end Day

namespace Stamp

def padded (width n : Nat) : String :=
  let digits := Nat.toDigits 10 n
  String.ofList (List.replicate (width - digits.length) '0' ++ digits)

/-- The stamp of a time, in microseconds since the beginning of the year 1970. -/
def ofMicros (micros : Nat) : String :=
  let seconds := micros / 1000000
  let day := Day.ofEpoch (seconds / 86400)
  padded 4 day.year ++ "-" ++ padded 2 day.month ++ "-" ++ padded 2 day.day ++ "T" ++
    padded 2 (seconds / 3600 % 24) ++ ":" ++ padded 2 (seconds / 60 % 60) ++ ":" ++ padded 2 (seconds % 60) ++
    "." ++ padded 6 (micros % 1000000) ++ "Z"

end Stamp

end FleetAgent
