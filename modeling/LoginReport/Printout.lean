import LoginReport.Session.Source
import LoginReport.Table
import LoginReport.Uptime

set_option autoImplicit false

/-!
# Printing the report

A line about the machine and a line of titles, if they are wanted, and then a row for every live
session, printed as the sessions come from their source.
-/

namespace LoginReport.Printout

/-- The line about the machine above the titles. -/
def header (settings : Settings) (uptime : Text) : Except Fault (List Text) :=
  (Table.titles settings).map fun titles => [uptime, titles]

/-- What a session adds to the report: nothing for other users' sessions, a notice for one whose
login process is gone, and else its row. -/
def printSession (machine : Machine) (settings : Settings) (table : ProcessTable)
    (session : LoginSession) : Run Unit :=
  if session.isOf settings.user then do
    let shown := Activity.ofSession machine session table.records settings.onlyOwner
    Run.note (Activity.notices machine session settings.onlyOwner)
    if shown.found then
      let line ← Run.ofExcept (Table.row machine session shown settings table.hertz machine.now)
      Run.print [line]
    else Run.note [.loginGone session.username session.tty session.leader]
  else Run.pure ()

def printSteps (machine : Machine) (settings : Settings) (table : ProcessTable) :
    List SessionStep → Run Unit
  | [] => Run.pure ()
  | .ran _ :: rest => printSteps machine settings table rest
  | .noted notice :: rest => do
    Run.note [notice]
    printSteps machine settings table rest
  | .found session :: rest => do
    printSession machine settings table session
    printSteps machine settings table rest

def printSessions (machine : Machine) (settings : Settings) (table : ProcessTable)
    (listing : SessionListing) : Run Unit := do
  printSteps machine settings table listing.steps
  match listing.fault with
  | none => Run.pure ()
  | some fault => Run.fail fault

/-- The uptime line of the machine. -/
def uptime (machine : Machine) (settings : Settings) : Except Fault Text := do
  let seconds ← Uptime.seconds machine settings.container
  let load ← machine.loadAverage.mapError Fault.load
  Uptime.line machine.zone machine.now seconds machine.users load

def printHeader (machine : Machine) (settings : Settings) : Run Unit :=
  if settings.header then do
    let uptime ← Run.ofExcept (uptime machine settings)
    let lines ← Run.ofExcept (header settings uptime)
    Run.print lines
  else Run.pure ()

/-- The whole report. The process table is read first, and nothing is printed without it. -/
def print (machine : Machine) (settings : Settings) : Run Unit := do
  let table ← Run.ofExcept (ProcessTable.capture machine)
  printHeader machine settings
  printSessions machine settings table ((SessionSource.ofMachine machine).listing machine)

end LoginReport.Printout
