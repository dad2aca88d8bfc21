import LoginReport.Notice
import LoginReport.ProcessTable.Capture
import LoginReport.Session.Basic
import LoginReport.Terminal

set_option autoImplicit false

/-!
# What a user is doing

One pass over the process table finds the processes of a session. It adds up the ticks of all
processes on the session's terminal and picks the process that shows best what the user is doing:
the newest one in the foreground of the terminal that belongs to the user, beginning with the login
process.
-/

namespace LoginReport

structure Activity where
  found : Bool
  terminalTicks : Int := 0
  ticks : Int := 0
  pid : Int := -1
  command : Text := ['-']
deriving DecidableEq, Repr

namespace Activity

def ownerOf (machine : Machine) (session : LoginSession) : Option Int :=
  match session.uid with
  | some uid => some uid
  | none => machine.userId (session.username.take userFieldSize)

/-- The pass so far. A time of zero is no time yet, and a dash is no command yet. -/
structure Scan where
  found : Bool := false
  terminalTicks : Int := 0
  ticks : Int := 0
  pid : Int := -1
  command : Text := ['-']
  bestTime : Int := 0
  newestTime : Int := 0
deriving DecidableEq, Repr

namespace Scan

def shows (scan : Scan) (process : ProcessRecord) : Scan :=
  { scan with
    ticks := process.ticks
    pid := process.pid
    command := process.command.take commandSize }

/-- The login process is shown until a better one is. -/
def seed (leader : Int) (scan : Scan) (process : ProcessRecord) : Scan :=
  if process.leader = leader then
    if scan.bestTime = 0 then
      { scan.shows process with found := true, bestTime := process.startTime }
    else { scan with found := true }
  else scan

/-- The newest process on the terminal stands in while there is no command. -/
def standIn (scan : Scan) (process : ProcessRecord) : Scan :=
  if scan.newestTime ≠ 0 ∧ process.startTime ≤ scan.newestTime then scan
  else
    let scan := { scan with newestTime := process.startTime }
    if scan.command = ['-'] then scan.shows process else scan

/-- The process runs in the foreground for the owner, where one is asked for. -/
def isForeground (owner : Option Int) (process : ProcessRecord) : Bool :=
  (match owner with
    | none => true
    | some uid => uid == process.effective || uid == process.real) &&
  process.group == process.foreground

/-- A newer process in the foreground takes the place of the one shown. -/
def promote (owner : Option Int) (scan : Scan) (process : ProcessRecord) : Scan :=
  if isForeground owner process ∧ scan.bestTime < process.startTime then
    { scan.shows process with bestTime := process.startTime }
  else scan

def step (owner : Option Int) (terminal leader : Int) (scan : Scan) (process : ProcessRecord) :
    Scan :=
  let scan := scan.seed leader process
  if process.terminal = terminal then
    let scan := { scan with terminalTicks := scan.terminalTicks + process.ticks }
    (scan.standIn process).promote owner process
  else scan

/-- A process that neither leads the login nor has its terminal changes nothing. -/
theorem step_of_foreign (owner : Option Int) (terminal leader : Int) (scan : Scan)
    (process : ProcessRecord) (hl : process.leader ≠ leader) (ht : process.terminal ≠ terminal) :
    step owner terminal leader scan process = scan := by
  simp [step, seed, hl, ht]

def run (owner : Option Int) (terminal leader : Int) (processes : List ProcessRecord) : Scan :=
  processes.foldl (step owner terminal leader) {}

def result (scan : Scan) : Activity :=
  { found := scan.found
    terminalTicks := scan.terminalTicks
    ticks := scan.ticks
    pid := scan.pid
    command := scan.command }

end Scan

/-- The processes of a session. With `onlyOwner` only the owner's processes are promoted, and
nothing is found for an owner without a number. -/
def ofSession (machine : Machine) (session : LoginSession) (processes : List ProcessRecord)
    (onlyOwner : Bool) : Activity :=
  let terminal := Terminal.number machine session.tty
  if onlyOwner then
    match ownerOf machine session with
    | none => { found := false }
    | some uid => (Scan.run (some uid) terminal session.leader processes).result
  else (Scan.run none terminal session.leader processes).result

/-- An owner without a number is worth a notice. -/
def notices (machine : Machine) (session : LoginSession) (onlyOwner : Bool) : List Notice :=
  if onlyOwner && (ownerOf machine session).isNone then [.ownerUnknown session.username] else []

end Activity

end LoginReport
