/-!
# The calendar

The lengths of months in the Gregorian calendar, which reaches back before its introduction and
counts a year zero.
-/

namespace PolicySync

/-- Whether a year has a day more than others. -/
def isLeapYear (year : Int) : Bool := year % 4 = 0 && (year % 100 ≠ 0 || year % 400 = 0)

/-- The days of a month. -/
def daysOf (year : Int) (month : Nat) : Nat :=
  if month = 2 then if isLeapYear year then 29 else 28
  else if month = 4 ∨ month = 6 ∨ month = 9 ∨ month = 11 then 30
  else 31

end PolicySync
