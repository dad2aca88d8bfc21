import LoginReport.ProcessTable.Stat

set_option autoImplicit false

/-!
# Capturing the process table

The table holds one record for every process that could be read, in the order of the process list.
Processes that vanish or deny access are left out; any other refusal ends the capture.
-/

namespace LoginReport

/-- The longest command line that is kept. -/
def commandSize : Nat := 512

structure ProcessRecord where
  pid : Int
  /-- The process that leads the thread group; the list holds leaders only. -/
  leader : Int
  effective : Int
  real : Int
  /-- The number of the controlling terminal, zero without one. -/
  terminal : Int
  group : Int
  foreground : Int
  ticks : Int
  /-- In clock ticks from the last boot. -/
  startTime : Int
  command : Text
deriving DecidableEq, Repr

structure ProcessTable where
  records : List ProcessRecord
  hertz : Int
deriving DecidableEq, Repr

namespace ProcessTable

/-- The arguments with blanks between them, or the name in brackets where there are none. -/
def command (arguments : Option (List Text)) (name : Text) : Text :=
  match arguments with
  | some (first :: rest) => (Text.join [' '] (first :: rest)).take commandSize
  | _ => ('[' :: name ++ [']']).take commandSize

/-- The name of the list, or of the status line where the list has none. -/
def name (info : ProcessInfo) (stat : Stat) : Text :=
  match info.name with
  | none => stat.name
  | some [] => stat.name
  | some name => name

def record (info : ProcessInfo) (stat : Stat) (owners : Owners) : ProcessRecord :=
  { pid := info.pid
    leader := info.pid
    effective := owners.effective
    real := owners.real
    terminal := stat.terminal
    group := stat.group
    foreground := stat.foreground
    ticks := stat.userTicks + stat.systemTicks
    startTime := stat.startTicks
    command := command info.arguments (name info stat) }

/-- A refusal that tells that the process is gone or closed to us leaves it out. -/
def passing (fault : SystemFault) : Except Fault (Option ProcessRecord) :=
  if fault.isPassing then .ok none else .error (.source (.processTable fault))

def owners (info : ProcessInfo) : Except OwnersFault Owners :=
  match info.owners with
  | some owners => .ok owners
  | none => info.askOwners

/-- The record of one process, or nothing where it is left out. The status line is read before the
owners are asked for. -/
def recordOf (machine : Machine) (info : ProcessInfo) : Except Fault (Option ProcessRecord) :=
  match Stat.ofProcess machine info.pid with
  | .error (.unreadable fault) => passing fault
  | .error fault => .error (.stat fault)
  | .ok stat =>
    match owners info with
    | .error .gone => .ok none
    | .error (.refused fault) => passing fault
    | .ok owners => .ok (some (record info stat owners))

def recordsOf (machine : Machine) :
    List (Except SystemFault ProcessInfo) → Except Fault (List ProcessRecord)
  | [] => .ok []
  | .error fault :: _ => .error (.source (.processTable fault))
  | .ok info :: rest =>
    match recordOf machine info with
    | .error fault => .error fault
    | .ok none => recordsOf machine rest
    | .ok (some record) => (recordsOf machine rest).map (record :: ·)

def capture (machine : Machine) : Except Fault ProcessTable :=
  if machine.hasProcessTable then
    (recordsOf machine machine.processes).map fun records => ⟨records, machine.hertz⟩
  else .error (.source .noProcessTable)

end ProcessTable

end LoginReport
