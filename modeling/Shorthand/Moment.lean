import Shorthand.Text.Basic

/-! Moments: a date and a time of day at an offset from universal time, and their timestamps. Years
run from 1 to 9999. -/
namespace Shorthand

/-- A day of the Gregorian calendar. -/
structure Date where
  year : Nat
  month : Nat
  day : Nat
  deriving DecidableEq, Repr

namespace Date

/-- Every fourth year is a leap year, but of the full centuries only every fourth. -/
def isLeap (year : Nat) : Bool := year % 4 == 0 && (year % 100 != 0 || year % 400 == 0)

def daysInMonth (year month : Nat) : Nat :=
  match month with
  | 2 => if isLeap year then 29 else 28
  | 4 | 6 | 9 | 11 => 30
  | _ => 31

/-- The following day, unless it lies beyond the year 9999. -/
def next? (d : Date) : Option Date :=
  if d.day < daysInMonth d.year d.month then some { d with day := d.day + 1 }
  else if d.month < 12 then some ⟨d.year, d.month + 1, 1⟩
  else if d.year < 9999 then some ⟨d.year + 1, 1, 1⟩
  else none

/-- The day before, unless it lies before the year 1. -/
def prev? (d : Date) : Option Date :=
  if 1 < d.day then some { d with day := d.day - 1 }
  else if 1 < d.month then some ⟨d.year, d.month - 1, daysInMonth d.year (d.month - 1)⟩
  else if 1 < d.year then some ⟨d.year - 1, 12, 31⟩
  else none

/-- The day `n` days after the first of January 1970. Years are counted from March, in cycles of 400
of them, so that leap days come last. -/
def ofEpoch (n : Nat) : Date :=
  let n := n + 719468
  let inCycle := n % 146097
  let yearOfCycle := (inCycle - inCycle / 1460 + inCycle / 36524 - inCycle / 146096) / 365
  let dayOfYear := inCycle - (365 * yearOfCycle + yearOfCycle / 4 - yearOfCycle / 100)
  let march := (5 * dayOfYear + 2) / 153
  let day := dayOfYear - (153 * march + 2) / 5 + 1
  let year := n / 146097 * 400 + yearOfCycle
  if march < 10 then ⟨year, march + 3, day⟩ else ⟨year + 1, march - 9, day⟩

end Date

/-- A time of day on a date, `offset` seconds ahead of universal time, by less than a day. -/
structure Moment where
  date : Date
  hour : Nat
  minute : Nat
  second : Nat
  microsecond : Nat
  offset : Int
  deriving DecidableEq, Repr

namespace Moment

/-- A moment with no date in the calendar's range. -/
inductive Fault where
  | outOfRange
  deriving DecidableEq, Repr

def Fault.message : Fault → Text
  | .outOfRange => "date value out of range".toList

def secondsPerDay : Int := 86400

/-- The moment in universal time so many microseconds after 1970 began. -/
def ofEpoch (microseconds : Nat) : Moment :=
  let seconds := microseconds / 1000000
  let second := seconds % 86400
  ⟨Date.ofEpoch (seconds / 86400), second / 3600, second / 60 % 60, second % 60,
    microseconds % 1000000, 0⟩

/-- Date and second of the day in universal time. -/
def universal? (m : Moment) : Option (Date × Nat) :=
  let s : Int := (m.hour * 60 + m.minute) * 60 + m.second - m.offset
  if s < 0 then m.date.prev?.map (·, (s + secondsPerDay).toNat)
  else if secondsPerDay ≤ s then m.date.next?.map (·, (s - secondsPerDay).toNat)
  else some (m.date, s.toNat)

/-- A timestamp such as `2024-01-31T09:15:00.000Z`, in universal time. -/
def format (d : Date) (second millisecond : Nat) : Text :=
  Text.padded 4 d.year ++ '-' :: Text.padded 2 d.month ++ '-' :: Text.padded 2 d.day ++
    'T' :: Text.padded 2 (second / 3600) ++ ':' :: Text.padded 2 (second / 60 % 60) ++
    ':' :: Text.padded 2 (second % 60) ++ '.' :: Text.padded 3 millisecond ++ ['Z']

/-- Timestamp of a moment, with whole milliseconds and the rest cut off. -/
def timestamp (m : Moment) : Except Fault Text :=
  match m.universal? with
  | none => .error .outOfRange
  | some (d, second) => .ok (format d second (m.microsecond / 1000))

/-- The same moment in universal time. -/
def toUniversal (m : Moment) : Except Fault Moment :=
  match m.universal? with
  | none => .error .outOfRange
  | some (d, second) =>
    .ok ⟨d, second / 3600, second / 60 % 60, second % 60, m.microsecond, 0⟩

end Moment

/-- Where the moment for an example comes from: it is given, or it is the present one, which the
clock tells in universal time. -/
inductive Clock where
  | given (m : Moment)
  | present (m : Moment)
  deriving DecidableEq, Repr

/-- Look at the clock. -/
def Clock.read : Clock → Except Moment.Fault Moment
  | .given m => .ok m
  | .present m => m.toUniversal

end Shorthand
