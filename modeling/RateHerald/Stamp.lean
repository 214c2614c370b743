import RateHerald.Decimal.Written

/-!
# Time stamps

A mail says when its rate was asked, in universal time and without the year: `Jan  2 15:04:05`. The
instant is a count of seconds since the beginning of 1970 and a count of nanoseconds; a billion or
more of them mark a leap second, which is written as the sixtieth second of its minute.

## Main declarations

* `monthAndDay` is the calendar: the month and day of a count of days.
* `Stamp.toText` writes a stamp.
-/

namespace RateHerald

/-- An instant in universal time. -/
structure Stamp where
  /-- Seconds since the beginning of 1970. -/
  seconds : Int
  /-- Nanoseconds since then; a billion or more in a leap second. -/
  nanos : Nat
deriving Repr, DecidableEq

namespace Stamp

/-- The names of the months. -/
def monthNames : List String :=
  ["Jan", "Feb", "Mar", "Apr", "May", "Jun", "Jul", "Aug", "Sep", "Oct", "Nov", "Dec"]

/-- The month (from one) and the day of the month of the day that lies `days` days after the first
of January 1970. Years are counted from March, so that a leap day ends its year, in cycles of four
hundred years. -/
def monthAndDay (days : Int) : Nat × Nat :=
  let dayOfEra := ((days + 719468) % 146097).toNat
  let yearOfEra :=
    (dayOfEra - dayOfEra / 1460 + dayOfEra / 36524 - dayOfEra / 146096) / 365
  let dayOfYear := dayOfEra - (365 * yearOfEra + yearOfEra / 4 - yearOfEra / 100)
  let month := (5 * dayOfYear + 2) / 153
  let day := dayOfYear - (153 * month + 2) / 5 + 1
  (if month < 10 then month + 3 else month - 9, day)

/-- A number with at least two places, filled from the left. -/
def twoPlaces (filler : Char) (n : Nat) : String :=
  let ds := Decimal.digits n
  String.ofList (List.replicate (2 - ds.length) filler ++ ds)

/-- The stamp as it is written. -/
def toText (t : Stamp) : String :=
  let (month, day) := monthAndDay (t.seconds / 86400)
  let second := (t.seconds % 86400).toNat
  let name := (monthNames[month - 1]?).getD ""
  name ++ " " ++ twoPlaces ' ' day ++ " " ++ twoPlaces '0' (second / 3600) ++ ":" ++
    twoPlaces '0' (second / 60 % 60) ++ ":" ++
    twoPlaces '0' (second % 60 + t.nanos / 1000000000)

end Stamp

end RateHerald
