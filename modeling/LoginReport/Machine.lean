import LoginReport.Fault

set_option autoImplicit false

/-!
# The machine

Everything a report looks at: the clock, devices, users, files, processes and commands of one
machine at one time.
-/

namespace LoginReport

structure Device where
  isCharacter : Bool
  number : Int
  accessed : Binary64
deriving DecidableEq, Repr

structure Owners where
  real : Int
  effective : Int
deriving DecidableEq, Repr

/-- Why the owners of a process cannot be told: it is gone or may not be looked at, or the system
refused the request. -/
inductive OwnersFault where
  | gone
  | refused (fault : SystemFault)
deriving DecidableEq, Repr

/-- A process as the process list shows it. The owners are asked for again when the list does not
tell them. -/
structure ProcessInfo where
  pid : Int
  name : Option Text
  owners : Option Owners
  arguments : Option (List Text)
  askOwners : Except OwnersFault Owners

/-- How a command ends. A status is negative when a signal ended it. -/
inductive CommandOutcome where
  | printed (output : Text)
  | exited (status : Int)
  | notStarted (fault : SystemFault)
  | notExchanged (fault : ExchangeFault)
deriving DecidableEq, Repr

structure LoadAverage where
  one : Binary64
  five : Binary64
  fifteen : Binary64
deriving DecidableEq, Repr

structure Machine where
  now : Binary64
  /-- Seconds of local time east of universal time. -/
  zone : Int
  device : Text → Option Device
  userId : Text → Option Int
  contents : Text → Except SystemFault Bytes
  environment : Text → Option Text
  /-- The width of the terminal that the report is printed on, if it is one. -/
  terminalColumns : Option Int
  clockTicks : Option Int
  hasProcessTable : Bool
  /-- The processes in order; a fault stands where the list cannot be read on. -/
  processes : List (Except SystemFault ProcessInfo)
  bootTime : Except BootFault Binary64
  userCount : Except SystemFault Int
  loadAverage : Except LoadFault LoadAverage
  hasRegistry : Bool
  registryCommand : Option Text
  run : List Text → CommandOutcome

namespace Machine

def localTime (machine : Machine) (instant : Binary64) : Except ClockFault LocalTime :=
  LocalTime.ofInstant machine.zone instant

/-- Clock ticks per second, a hundred where the machine does not tell. -/
def hertz (machine : Machine) : Int := machine.clockTicks.getD 100

/-- The number of users who are logged in, none where the machine does not tell. -/
def users (machine : Machine) : Int :=
  match machine.userCount with
  | .ok n => n
  | .error _ => 0

/-- The output of a command that ran to a good end. -/
def output (machine : Machine) (arguments : List Text) : Except OutputFault Text :=
  match machine.run arguments with
  | .printed output => .ok output
  | .exited status => .error (.command (.failed arguments status))
  | .notStarted fault => .error (.command (.notStarted fault))
  | .notExchanged fault => .error (.exchange fault)

end Machine

end LoginReport
