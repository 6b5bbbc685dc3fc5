/-!
# The calendar

Days of months and weeks of years, in the calendar of today carried on without end in both directions.
Weeks begin on Monday, and the first week of a year is the one with the year's first Thursday.
-/

namespace StickerPages.Calendar

/-- Years with a twenty-ninth of February. -/
def isLeap (year : Nat) : Bool :=
  year % 4 == 0 && (year % 100 != 0 || year % 400 == 0)

/-- The days of a month. -/
def daysIn (year month : Nat) : Nat :=
  if month == 2 then if isLeap year then 29 else 28
  else if month == 4 || month == 6 || month == 9 || month == 11 then 30
  else 31

/-- The calendar has the day. -/
def hasDay (year month day : Nat) : Bool :=
  1 ≤ year && 1 ≤ month && month ≤ 12 && 1 ≤ day && day ≤ daysIn year month

/-- The weekday of a year's last day, Sunday being 0. -/
def lastWeekday (year : Nat) : Nat :=
  (365 * year + year / 4 - year / 100 + year / 400) % 7

/-- The number of the week in which a year's last day lies. -/
def lastWeek (year : Nat) : Nat :=
  match lastWeekday year with
  | 1 | 2 | 3 => 1
  | 4 => 53
  | 5 => if isLeap year then 53 else 52
  | _ => 52

end StickerPages.Calendar
