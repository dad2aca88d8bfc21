import LoginReport.Machine
import LoginReport.ProcessTable.Stat

set_option autoImplicit false

/-!
# The uptime line

How long the machine, or the container, has been up: from the last boot, or from the start of the
first process. The line shows it in days, hours and minutes beside the clock, the users and the
load.
-/

namespace LoginReport.Uptime

/-- Seconds since the last boot. -/
def system (machine : Machine) : Except Fault Binary64 :=
  match machine.bootTime with
  | .ok boot => .ok (machine.now.sub boot)
  | .error fault => .error (.source (.systemUptime fault))

/-- Seconds from the last boot to the start of the first process. -/
def firstStart (machine : Machine) : Except Fault Binary64 :=
  match Stat.ofProcess machine 1 with
  | .ok stat => (Binary64.ratio stat.startTicks machine.hertz).mapError .number
  | .error fault => .error (.source (.containerUptime fault))

def container (machine : Machine) : Except Fault Binary64 := do
  let started ← firstStart machine
  let up ← system machine
  return up.sub started

/-- The machine reports on a container when its environment says so, whatever the value. -/
def isContainer (machine : Machine) : Bool :=
  (machine.environment "PROCPS_CONTAINER".toList).isSome

def seconds (machine : Machine) (ofContainer : Bool) : Except Fault Binary64 :=
  if ofContainer || isContainer machine then container machine else system machine

def plural (n : Int) (one many : String) : Text := (if 1 < n then many else one).toList

def days (seconds : Int) : Text :=
  let n := seconds / 86400
  if n = 0 then [] else Text.ofInt n ++ ' ' :: plural n "day" "days" ++ [',', ' ']

def hoursMinutes (seconds : Int) : Text :=
  let hours := seconds / 60 / 60 % 24
  let minutes := seconds / 60 % 60
  if hours = 0 then Text.ofInt minutes ++ " min, ".toList
  else Text.blankTwo hours ++ ':' :: Text.zeroTwo minutes ++ [',', ' ']

/-- The whole seconds of an uptime in days, hours and minutes. -/
def duration (seconds : Int) : Text := days seconds ++ hoursMinutes seconds

def clock (time : LocalTime) : Text :=
  ' ' :: Text.zeroTwo time.hour ++ ':' :: Text.zeroTwo time.minute ++ ':' ::
    Text.zeroTwo time.second

def userCount (users : Int) : Text := Text.blankTwo users ++ ' ' :: plural users "user" "users"

def load (average : LoadAverage) : Text :=
  ",  load average: ".toList ++
    Text.join [',', ' '] ([average.one, average.five, average.fifteen].map Binary64.twoPlaces)

def line (zone : Int) (now uptime : Binary64) (users : Int) (average : LoadAverage) :
    Except Fault Text := do
  let time ← (LocalTime.ofInstant zone now).mapError Fault.clock
  let seconds ← uptime.trunc.mapError Fault.number
  return clock time ++ " up ".toList ++ duration seconds ++ userCount users ++ load average

end LoginReport.Uptime
