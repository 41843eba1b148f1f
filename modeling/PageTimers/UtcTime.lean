/-
# Points in time

Days of the civil calendar, counted from 1 January 1970.  A year begins in
March here, so that the day that leap years have more is the last of a year,
and four hundred years are always the same number of days.
-/

namespace PageTimers

/-- A point in time, by the clock of Greenwich. -/
structure UtcTime where
  year : Int
  month : Nat
  day : Nat
  hour : Nat
  minute : Nat
  second : Nat
  nanosecond : Nat
deriving DecidableEq, Repr

namespace UtcTime

/-- The days of four hundred years. -/
def daysOfEra : Nat := 146097

/-- The days from 1 March of the year 0 to 1 January 1970. -/
def daysToEpoch : Nat := 719468

/-- The year of an era that a day lies in; years begin in March. -/
def yearOfEra (day : Nat) : Nat :=
  (day - day / 1460 + day / 36524 - day / 146096) / 365

/-- The year, month and day of the given day since the epoch. -/
def civil (days : Nat) : Int × Nat × Nat :=
  let shifted := days + daysToEpoch
  let era := shifted / daysOfEra
  let dayOfEra := shifted % daysOfEra
  let year := yearOfEra dayOfEra
  let dayOfYear := dayOfEra - (365 * year + year / 4 - year / 100)
  let month := (5 * dayOfYear + 2) / 153
  let day := dayOfYear - (153 * month + 2) / 5 + 1
  let isNext := 10 ≤ month
  ((year + era * 400 + if isNext then 1 else 0 : Nat), if isNext then month - 9 else month + 3,
    day)

/-- The point in time so many nanoseconds after the epoch. -/
def ofNanoseconds (n : Nat) : UtcTime :=
  let seconds := n / 1000000000
  let (year, month, day) := civil (seconds / 86400)
  let rest := seconds % 86400
  ⟨year, month, day, rest / 3600, rest / 60 % 60, rest % 60, n % 1000000000⟩

/-- A number with zeros in front, up to the given width. -/
def padded (width n : Nat) : String :=
  let digits := toString n
  String.ofList (List.replicate (width - digits.length) '0') ++ digits

def dateText (t : UtcTime) : String :=
  s!"{padded 4 t.year.toNat}-{padded 2 t.month}-{padded 2 t.day}"

def timeText (t : UtcTime) : String :=
  s!"{padded 2 t.hour}:{padded 2 t.minute}:{padded 2 t.second}"

/-- The fraction of the second, in as few groups of three digits as it takes. -/
def fractionText (nanosecond : Nat) : String :=
  if nanosecond = 0 then ""
  else if nanosecond % 1000000 = 0 then "." ++ padded 3 (nanosecond / 1000000)
  else if nanosecond % 1000 = 0 then "." ++ padded 6 (nanosecond / 1000)
  else "." ++ padded 9 nanosecond

/-- A point in time, with the given mark for the zone. -/
def text (zone : String) (t : UtcTime) : String :=
  t.dateText ++ "T" ++ t.timeText ++ fractionText t.nanosecond ++ zone

end UtcTime

end PageTimers
