import ReflexPolicy.Binary64.Decimal

/-!
# Calendar dates and moments

A date of the Gregorian calendar, and a moment: a date with a time of day and, where one is
given, the offset of its clock.
-/

namespace ReflexPolicy

/-- A date. -/
structure Date where
  year : Nat
  month : Nat
  day : Nat
  deriving DecidableEq

/-- A date with a time of day; the offset of the clock is in seconds. -/
structure Moment where
  date : Date
  hour : Nat
  minute : Nat
  second : Nat
  microsecond : Nat
  offset : Option Int
  deriving DecidableEq

/-- What is wrong with the numbers of a date or a time of day. -/
inductive CalendarFault where
  | year (given : Nat)
  | month
  | day
  | hour
  | minute
  | second
  | offset (given : Int)
  deriving DecidableEq

namespace Calendar

/-- A number with at least `width` digits. -/
def padded (width n : Nat) : List Char :=
  let ds := Decimal.digitsOf n
  List.replicate (width - ds.length) '0' ++ ds

/-- A year with 29 days in February. -/
def isLeap (year : Nat) : Bool := (year % 4 == 0 && year % 100 != 0) || year % 400 == 0

/-- The number of days of a month. -/
def daysIn (year month : Nat) : Nat :=
  if month == 2 then (if isLeap year then 29 else 28)
  else if [4, 6, 9, 11].contains month then 30 else 31

end Calendar

namespace Date

/-- The date of these numbers, if there is one. -/
def ofParts (year month day : Nat) : Except CalendarFault Date :=
  if year < 1 ∨ 9999 < year then .error (.year year)
  else if month < 1 ∨ 12 < month then .error .month
  else if day < 1 ∨ Calendar.daysIn year month < day then .error .day
  else .ok ⟨year, month, day⟩

/-- The date as year, month and day, joined by hyphens. -/
def plain (d : Date) : List Char :=
  Calendar.padded 4 d.year ++ '-' :: (Calendar.padded 2 d.month ++ '-' :: Calendar.padded 2 d.day)

/-- The numbers of the date. -/
def parts (d : Date) : List Nat := [d.year, d.month, d.day]

/-- The number of days up to the date, counted from the beginning of the calendar. -/
def dayNumber (d : Date) : Nat :=
  let before := d.year - 1
  before * 365 + before / 4 - before / 100 + before / 400
    + (((List.range (d.month - 1)).map fun m => Calendar.daysIn d.year (m + 1)).foldl (· + ·) 0)
    + d.day

end Date

namespace Moment

/-- The offset of a clock is less than a day. -/
def checkOffset : Option Int → Except CalendarFault Unit
  | some o => if 86400 ≤ o.natAbs then .error (.offset o) else .ok ()
  | none => .ok ()

/-- The moment of these numbers, if there is one. -/
def ofParts (date : Date) (hour minute second microsecond : Nat) (offset : Option Int) :
    Except CalendarFault Moment :=
  if 23 < hour then .error .hour
  else if 59 < minute then .error .minute
  else if 59 < second then .error .second
  else do
    checkOffset offset
    return ⟨date, hour, minute, second, microsecond, offset⟩

/-- The second of the calendar at which the clock of a moment shows it, without its offset. -/
def shown (m : Moment) : Nat :=
  ((m.date.dayNumber * 24 + m.hour) * 60 + m.minute) * 60 + m.second

/-- The moments are the same: both are the same instant of clocks with offsets, or what clocks
without one show alike. -/
def same (m n : Moment) : Bool :=
  match m.offset, n.offset with
  | some o, some p =>
    (m.shown : Int) - o == (n.shown : Int) - p && m.microsecond == n.microsecond
  | none, none => m.shown == n.shown && m.microsecond == n.microsecond
  | _, _ => false

/-- An offset as hours and minutes with a sign. -/
def offsetText (o : Int) : List Char :=
  (if o < 0 then '-' else '+') ::
    (Calendar.padded 2 (o.natAbs / 3600) ++ ':' :: Calendar.padded 2 (o.natAbs / 60 % 60))

/-- The date and the time of day, joined by a space. -/
def plain (m : Moment) : List Char :=
  m.date.plain ++ ' ' :: (Calendar.padded 2 m.hour ++ ':' :: (Calendar.padded 2 m.minute ++
    ':' :: Calendar.padded 2 m.second))
    ++ (if m.microsecond = 0 then [] else '.' :: Calendar.padded 6 m.microsecond)
    ++ (m.offset.map offsetText).getD []

/-- The numbers of the moment; seconds that are zero and have no fraction are left out. -/
def parts (m : Moment) : List Nat :=
  m.date.parts ++ [m.hour, m.minute]
    ++ (if m.microsecond ≠ 0 then [m.second, m.microsecond]
      else if m.second ≠ 0 then [m.second] else [])

end Moment

end ReflexPolicy
