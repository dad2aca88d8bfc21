import LoginReport.Activity
import LoginReport.Host.Origin
import LoginReport.Interval
import LoginReport.Settings
import LoginReport.Time.Login

set_option autoImplicit false

/-!
# The table of sessions

A line of titles and a row for a session. A row has the user, the terminal, the origin, the login
time, the idle time and the processor times in columns of fixed width, and then the command.
-/

namespace LoginReport.Table

def column (s : Text) (width : Int) : Except Fault Text :=
  (Column.unsigned s width).mapError Fault.width

def titles (settings : Settings) : Except Fault Text := do
  let user ← column "USER".toList settings.userWidth
  let origin ← if settings.showFrom then column "FROM".toList settings.fromWidth else .ok []
  let rest := if settings.longForm then " LOGIN@   IDLE   JCPU   PCPU  WHAT" else "   IDLE WHAT"
  return user ++ " TTY      ".toList ++ origin ++ rest.toList

def displayIdle : Text := " ?xdm? ".toList

def idle (machine : Machine) (session : LoginSession) (settings : Settings) (now : Binary64) :
    Except Fault Text :=
  if session.display then .ok displayIdle
  else ((Terminal.idleSeconds machine session.tty now).mapError Fault.number).map fun seconds =>
    Interval.text seconds 0 settings.oldStyle

def ticks (n hertz : Int) (settings : Settings) : Except Fault Text :=
  (Interval.ofTicks n hertz settings.oldStyle).mapError Fault.number

/-- The processor times of the terminal and of the process shown; none is known of a process that
used none. -/
def times (shown : Activity) (settings : Settings) (hertz : Int) : Except Fault Text := do
  let all ← ticks shown.terminalTicks hertz settings
  let one ← if 0 < shown.ticks then ticks shown.ticks hertz settings else .ok Interval.unknown
  return all ++ one

/-- The processes of login and command, where they are wanted. -/
def pids (session : LoginSession) (shown : Activity) (settings : Settings) : Text :=
  if settings.pids then ' ' :: Text.ofInt session.leader ++ '/' :: Text.ofInt shown.pid else []

/-- The width that is left for the command behind the process numbers. -/
def commandWidth (settings : Settings) (pids : Text) : Int :=
  if !settings.pids then settings.commandWidth
  else if settings.commandWidth < pids.length then 0
  else settings.commandWidth - pids.length

def command (shown : Activity) (settings : Settings) (pids : Text) : Text :=
  pids ++ ' ' :: shown.command.cut (commandWidth settings pids)

def user (session : LoginSession) (settings : Settings) : Except Fault Text :=
  column (Text.cut (session.username.take userFieldSize) settings.userWidth)
    (settings.userWidth + 1)

def tty (session : LoginSession) : Text := Text.padRight (session.tty.take 8) 9 ' '

def origin (session : LoginSession) (settings : Settings) : Except Fault Text :=
  if settings.showFrom then
    (Origin.column session settings.addresses settings.fromWidth).mapError Fault.width
  else .ok []

def login (machine : Machine) (session : LoginSession) (settings : Settings) (now : Binary64) :
    Except Fault Text :=
  if settings.longForm then
    (LoginTime.column machine.zone session.startTime now).mapError Fault.clock
  else .ok []

/-- The row of a session and what is shown for it. -/
def row (machine : Machine) (session : LoginSession) (shown : Activity) (settings : Settings)
    (hertz : Int) (now : Binary64) : Except Fault Text := do
  let user ← user session settings
  let origin ← origin session settings
  let login ← login machine session settings now
  let idle ← idle machine session settings now
  let times ← if settings.longForm then times shown settings hertz else .ok []
  return user ++ tty session ++ origin ++ login ++ idle ++ times ++
    command shown settings (pids session shown settings)

end LoginReport.Table
