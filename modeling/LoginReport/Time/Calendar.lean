import LoginReport.Text.Basic

set_option autoImplicit false

/-!
# Calendar dates

Days are counted from the first of January of year one in the Gregorian calendar, extended to all
years. Four centuries have 146097 days, a century 36524, four years 1461 and a year 365, up to the
leap day that closes the longest of them.
-/

namespace LoginReport

/-- A year and the days of it that have passed. -/
structure YearDay where
  year : Int
  day : Nat
deriving DecidableEq, Repr

structure CalendarDate where
  year : Int
  month : Nat
  day : Nat
deriving DecidableEq, Repr

namespace Calendar

def isLeap (year : Int) : Bool := year % 4 == 0 && (year % 100 != 0 || year % 400 == 0)

/-- The days before a year. -/
def daysBefore (year : Int) : Int :=
  let past := year - 1
  past * 365 + past / 4 - past / 100 + past / 400

/-- The year that holds a day. The last century of four and the last year of four are the ones that
may have one more day, so they take what exceeds the others. -/
def yearDay (days : Int) : YearDay :=
  let cycle := days / 146097
  let inCycle := (days % 146097).toNat
  let century := min (inCycle / 36524) 3
  let inCentury := inCycle - century * 36524
  let four := inCentury / 1461
  let inFour := inCentury % 1461
  let one := min (inFour / 365) 3
  ⟨cycle * 400 + (century * 100 + four * 4 + one + 1 : Nat), inFour - one * 365⟩

def monthLengths (year : Int) : List Nat :=
  [31, if isLeap year then 29 else 28, 31, 30, 31, 30, 31, 31, 30, 31, 30, 31]

/-- The month that holds a day, counted from `month`, and the day's number in it. -/
def monthDay (month day : Nat) : List Nat → Nat × Nat
  | [] => (month, day + 1)
  | length :: rest =>
    if day < length then (month, day + 1) else monthDay (month + 1) (day - length) rest

def date (days : Int) : CalendarDate :=
  let place := yearDay days
  let found := monthDay 1 place.day (monthLengths place.year)
  ⟨place.year, found.1, found.2⟩

/-- Monday is zero; the first day of year one was a Monday. -/
def weekday (days : Int) : Nat := (days % 7).toNat

/-- The days before the first of January 1970. -/
def epoch : Int := 719162

def weekdayNames : List String := ["Mon", "Tue", "Wed", "Thu", "Fri", "Sat", "Sun"]

def monthNames : List String :=
  ["Jan", "Feb", "Mar", "Apr", "May", "Jun", "Jul", "Aug", "Sep", "Oct", "Nov", "Dec"]

def weekdayName (weekday : Nat) : Text := (weekdayNames.getD weekday "?").toList

/-- The months are numbered from one. -/
def monthName (month : Nat) : Text := (monthNames.getD (month - 1) "?").toList

theorem weekday_lt (days : Int) : weekday days < 7 := by
  unfold weekday
  omega

/-- The days before a year, from its place in the cycle of four centuries. -/
theorem daysBefore_of_parts (cycle : Int) (century four one : Nat) (hc : century ≤ 3)
    (hf : four ≤ 24) (ho : one ≤ 3) :
    daysBefore (cycle * 400 + (century * 100 + four * 4 + one + 1 : Nat)) =
      cycle * 146097 + century * 36524 + four * 1461 + one * 365 := by
  have h4 : (cycle * 400 + (century * 100 + four * 4 + one + 1 : Nat) - 1) / 4 =
      cycle * 100 + century * 25 + four := by omega
  have h100 : (cycle * 400 + (century * 100 + four * 4 + one + 1 : Nat) - 1) / 100 =
      cycle * 4 + century := by omega
  have h400 : (cycle * 400 + (century * 100 + four * 4 + one + 1 : Nat) - 1) / 400 = cycle := by
    omega
  simp only [daysBefore, h4, h100, h400]
  omega

/-- The days before the year and the days in it make up the day. -/
theorem daysBefore_yearDay (days : Int) :
    daysBefore (yearDay days).year + (yearDay days).day = days := by
  simp only [yearDay]
  rw [daysBefore_of_parts _ _ _ _ (by omega) (by omega) (by omega)]
  omega

theorem yearDay_day_lt (days : Int) : (yearDay days).day < 366 := by
  simp only [yearDay]
  omega

end Calendar

end LoginReport
