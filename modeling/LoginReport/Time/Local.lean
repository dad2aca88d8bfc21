import LoginReport.Number.Binary64
import LoginReport.Time.Calendar

set_option autoImplicit false

/-!
# Local time

An instant is a number of seconds from the epoch. Its local time is taken at a fixed distance from
universal time, after the fraction of a second is dropped toward the past. The year, counted from
1900, has to fit a signed word of 32 bits both in universal and in local time.
-/

namespace LoginReport

structure LocalTime where
  date : CalendarDate
  yearDay : Nat
  weekday : Nat
  hour : Nat
  minute : Nat
  second : Nat
deriving DecidableEq, Repr

/-- Why an instant has no local time, or a local time no name of its month or weekday. -/
inductive ClockFault where
  | notANumber
  | outOfRange
  | yearOverflow
  | yearUnnamed
deriving DecidableEq, Repr

def ClockFault.message : ClockFault → Text
  | .notANumber => "Invalid value NaN (not a number)".toList
  | .outOfRange => "timestamp out of range for platform time_t".toList
  | .yearOverflow => "[Errno 75] Value too large for defined data type".toList
  | .yearUnnamed => "signed integer is greater than maximum".toList

namespace LocalTime

def secondsPerDay : Nat := 86400

/-- The local time of a whole number of seconds from the epoch, in local seconds. -/
def ofSeconds (seconds : Int) : LocalTime :=
  let days := Calendar.epoch + seconds / secondsPerDay
  let inDay := (seconds % secondsPerDay).toNat
  { date := Calendar.date days
    yearDay := (Calendar.yearDay days).day
    weekday := Calendar.weekday days
    hour := inDay / 3600
    minute := inDay / 60 % 60
    second := inDay % 60 }

/-- The year of a time in seconds is one that a clock can hold. -/
def yearFits (seconds : Int) : Bool :=
  let year := (ofSeconds seconds).date.year - 1900
  decide (-0x80000000 ≤ year ∧ year < 0x80000000)

/-- Whole seconds from the epoch that a clock can count. -/
def wholeSeconds : Binary64 → Except ClockFault Int
  | .nan _ => .error .notANumber
  | .infinite _ => .error .outOfRange
  | .finite negative units =>
    let seconds := Binary64.floorUnits negative units
    if -0x8000000000000000 ≤ seconds ∧ seconds < 0x8000000000000000 then .ok seconds
    else .error .outOfRange

/-- The local time of an instant, `zone` seconds east of universal time. -/
def ofInstant (zone : Int) (instant : Binary64) : Except ClockFault LocalTime :=
  (wholeSeconds instant).bind fun seconds =>
    if yearFits seconds ∧ yearFits (seconds + zone) then .ok (ofSeconds (seconds + zone))
    else .error .yearOverflow

/-- The names of month and weekday are given for years that fit a signed word of 32 bits. -/
def named (time : LocalTime) (name : Text) : Except ClockFault Text :=
  if time.date.year < 0x80000000 then .ok name else .error .yearUnnamed

def monthName (time : LocalTime) : Except ClockFault Text :=
  time.named (Calendar.monthName time.date.month)

def weekdayName (time : LocalTime) : Except ClockFault Text :=
  time.named (Calendar.weekdayName time.weekday)

theorem hour_ofSeconds_lt (seconds : Int) : (ofSeconds seconds).hour < 24 := by
  simp only [ofSeconds, secondsPerDay]
  omega

theorem minute_ofSeconds_lt (seconds : Int) : (ofSeconds seconds).minute < 60 := by
  simp only [ofSeconds]
  omega

end LocalTime

end LoginReport
