import LoginReport.Time.Local

set_option autoImplicit false

/-!
# The login time column

A recent login is shown by the clock, one of the last six days by weekday and hour, and an older
one by its date. A login counts as recent for half a day, and later still on the same day of the
year.
-/

namespace LoginReport.LoginTime

def halfDay : Int := 43200

def sixDays : Int := 518400

def clock (time : LocalTime) : Text :=
  ' ' :: Text.zeroTwo time.hour ++ ':' :: Text.zeroTwo time.minute ++ [' ', ' ']

def weekday (time : LocalTime) (name : Text) : Text :=
  ' ' :: name.padLeft 3 ' ' ++ Text.zeroTwo time.hour ++ [' ', ' ']

def date (time : LocalTime) (month : Text) : Text :=
  ' ' :: Text.zeroTwo time.date.day ++ month.padLeft 3 ' ' ++ Text.zeroTwo (time.date.year % 100)

/-- The time of a login, seen at an instant, in eight columns. -/
def column (zone : Int) (login now : Binary64) : Except ClockFault Text := do
  let time ← LocalTime.ofInstant zone login
  let today ← LocalTime.ofInstant zone now
  let elapsed := now.sub login
  if elapsed.exceeds halfDay && time.yearDay != today.yearDay then
    if elapsed.exceeds sixDays then return date time (← time.monthName)
    else return weekday time (← time.weekdayName)
  else return clock time

end LoginReport.LoginTime
