-- Points in time to the nanosecond, in UTC, as a calendar date and a time of day. A minute
-- may have a sixty-first second.
namespace ConfigFanout

/-- Whether a year of the Gregorian calendar has a 29th of February. -/
def isLeapYear (year : Int) : Bool :=
  year % 4 = 0 && (year % 100 ≠ 0 || year % 400 = 0)

def daysInMonth (year : Int) (month : Nat) : Nat :=
  match month with
  | 2 => if isLeapYear year then 29 else 28
  | 4 | 6 | 9 | 11 => 30
  | _ => 31

theorem one_le_daysInMonth (year : Int) (month : Nat) : 1 ≤ daysInMonth year month := by
  unfold daysInMonth
  split <;> (try split) <;> omega

/-- A day of the Gregorian calendar. -/
structure CalendarDate where
  year : Int
  month : Nat
  day : Nat
  /-- There is such a day. -/
  isDay : 1 ≤ month ∧ month ≤ 12 ∧ 1 ≤ day ∧ day ≤ daysInMonth year month := by decide
  deriving DecidableEq, Repr

namespace CalendarDate

instance : Inhabited CalendarDate := ⟨⟨1970, 1, 1, by decide⟩⟩

def firstYear : Int := -262143

def lastYear : Int := 262142

/-- Whether the year is within the limits. -/
def isWithinLimits (date : CalendarDate) : Bool :=
  firstYear ≤ date.year && date.year ≤ lastYear

/-- The day with the given numbers, if there is one. -/
def ofParts? (year : Int) (month day : Nat) : Option CalendarDate :=
  if h : 1 ≤ month ∧ month ≤ 12 ∧ 1 ≤ day ∧ day ≤ daysInMonth year month then
    some ⟨year, month, day, h⟩
  else none

def next (date : CalendarDate) : CalendarDate :=
  have isDay := date.isDay
  if h : date.day < daysInMonth date.year date.month then
    ⟨date.year, date.month, date.day + 1, by omega⟩
  else if h : date.month < 12 then
    ⟨date.year, date.month + 1, 1, by
      have := one_le_daysInMonth date.year (date.month + 1)
      omega⟩
  else ⟨date.year + 1, 1, 1, by simp [daysInMonth]⟩

def previous (date : CalendarDate) : CalendarDate :=
  have isDay := date.isDay
  if h : 1 < date.day then ⟨date.year, date.month, date.day - 1, by omega⟩
  else if h : 1 < date.month then
    ⟨date.year, date.month - 1, daysInMonth date.year (date.month - 1), by
      have := one_le_daysInMonth date.year (date.month - 1)
      omega⟩
  else ⟨date.year - 1, 12, 31, by simp [daysInMonth]⟩

@[simp] theorem ofParts?_eq_some (date : CalendarDate) :
    ofParts? date.year date.month date.day = some date := by
  simp [ofParts?, date.isDay]

end CalendarDate

/-- No fraction of a second. -/
def Timestamp.noFraction : Fin 1000000000 := 0

/-- A point in time, in UTC. -/
structure Timestamp where
  date : CalendarDate
  hour : Fin 24
  minute : Fin 60
  /-- The last of these is the extra second that some minutes have. -/
  second : Fin 61
  nanosecond : Fin 1000000000 := Timestamp.noFraction
  /-- The date is one that clocks show. -/
  isShown : date.isWithinLimits = true := by decide
  deriving DecidableEq, Repr

namespace Timestamp

/-- The point in time at which a clock that runs ahead of UTC by some minutes, less than a
day, shows `time`. There is none if the date leaves the limits. -/
def toUtc (time : Timestamp) (ahead : Int) : Option Timestamp :=
  let minutes : Int := time.hour * 60 + time.minute - ahead
  let date :=
    if minutes < 0 then time.date.previous
    else if 1440 ≤ minutes then time.date.next
    else time.date
  let ofDay := (minutes % 1440).toNat
  if h : date.isWithinLimits = true then
    some ⟨date, ⟨ofDay / 60, by omega⟩, ⟨ofDay % 60, by omega⟩, time.second, time.nanosecond, h⟩
  else none

/-- A number with at least `width` digits. -/
def padded (width n : Nat) : List Char :=
  let digits := Nat.toDigits 10 n
  List.replicate (width - digits.length) '0' ++ digits

/-- A year has four digits. Outside 0 to 9999 it has a sign too, and may have more. -/
def yearText (year : Int) : List Char :=
  if year < 0 then '-' :: padded 4 year.natAbs
  else if 9999 < year then '+' :: padded 4 year.natAbs
  else padded 4 year.natAbs

/-- The time as a text: date and time of day with a `T` between them and a `Z` for UTC. A
fraction of a second is left out. -/
def render (time : Timestamp) : String :=
  String.ofList <|
    yearText time.date.year ++ '-' :: padded 2 time.date.month ++ '-' :: padded 2 time.date.day ++
      'T' :: padded 2 time.hour ++ ':' :: padded 2 time.minute ++ ':' :: padded 2 time.second ++
      ['Z']

end Timestamp

end ConfigFanout
