/-!
# Dates

Days are counted from the first of January 1970, and written as a year, a month and
a day of the Gregorian calendar, which is continued into the past.

The count is easiest in years that begin in March, so that the leap day comes last.
Four hundred such years are always 146097 days.
-/

namespace ReviewDesk

structure Date where
  year : Int
  month : Int
  day : Int
  deriving DecidableEq

namespace Date

/-!
# Years that begin in March
-/

def daysBeforeMonth (m : Int) : Int :=
  (153 * m + 2) / 5

def daysBeforeYear (y : Int) : Int :=
  365 * y + y / 4 - y / 100

def daysInCycle : Int := 146097

/-- Days from the first of March of the year zero to the first of January 1970. -/
def epoch : Int := 719468

/-!
# From dates to days and back
-/

def toDays (d : Date) : Int :=
  let shifted := d.month ≤ 2
  let y := if shifted then d.year - 1 else d.year
  let m := if shifted then d.month + 9 else d.month - 3
  y / 400 * daysInCycle + daysBeforeYear (y % 400) + daysBeforeMonth m + (d.day - 1) - epoch

def yearOfCycle (day : Int) : Int :=
  (day - day / 1460 + day / 36524 - day / 146096) / 365

def ofDays (n : Int) : Date :=
  let n := n + epoch
  let cycle := n / daysInCycle
  let inCycle := n % daysInCycle
  let y := yearOfCycle inCycle
  let inYear := inCycle - daysBeforeYear y
  let m := (5 * inYear + 2) / 153
  let shifted := 10 ≤ m
  { year := cycle * 400 + y + (if shifted then 1 else 0)
    month := if shifted then m - 9 else m + 3
    day := inYear - daysBeforeMonth m + 1 }

/-!
# Dates that exist
-/

def isLeap (year : Int) : Bool :=
  year % 4 == 0 && (year % 100 != 0 || year % 400 == 0)

def daysInMonth (year month : Int) : Int :=
  if month = 2 then (if isLeap year then 29 else 28)
  else if month = 4 || month = 6 || month = 9 || month = 11 then 30
  else 31

def IsValid (d : Date) : Prop :=
  1 ≤ d.month ∧ d.month ≤ 12 ∧ 1 ≤ d.day ∧ d.day ≤ daysInMonth d.year d.month

instance (d : Date) : Decidable d.IsValid :=
  inferInstanceAs (Decidable (_ ∧ _ ∧ _ ∧ _))

end Date
end ReviewDesk
