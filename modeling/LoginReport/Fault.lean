import LoginReport.SystemFault
import LoginReport.Text.Column
import LoginReport.Text.Loose
import LoginReport.Text.Numeral
import LoginReport.Time.Local

set_option autoImplicit false

/-!
# Why a report fails

A `SourceFault` ends the report in a documented way: the process table, the uptime or the list of
sessions cannot be read. Every other `Fault` is a value that cannot be read or shown.
-/

namespace LoginReport

/-- Why a process's status line gave no fields. -/
inductive StatFault where
  | unreadable (fault : SystemFault)
  | missingField
  | numeral (fault : NumeralFault)
deriving DecidableEq, Repr

def StatFault.message : StatFault → Text
  | .unreadable fault => fault.message
  | .missingField => "list index out of range".toList
  | .numeral fault => fault.message

/-- Why the time of the last boot is unknown. -/
inductive BootFault where
  | unreadable (fault : SystemFault)
  | unknown (reason : Text)
deriving DecidableEq, Repr

def BootFault.message : BootFault → Text
  | .unreadable fault => fault.message
  | .unknown reason => reason

/-- Why there is no load average: the system refused the request, or does not tell. -/
inductive LoadFault where
  | refused (fault : SystemFault)
  | unobtainable
deriving DecidableEq, Repr

/-- The number of the error, where there is one. -/
def LoadFault.number? : LoadFault → Option Int
  | .refused fault => some fault.number
  | .unobtainable => none

def LoadFault.message : LoadFault → Text
  | .refused fault => fault.message
  | .unobtainable => "Load averages are unobtainable".toList

/-- Why nothing passed to or from a command: an argument has a NUL in it, or the output is not
text. -/
inductive ExchangeFault where
  | nulInArgument
  | notText (reason : Text)
deriving DecidableEq, Repr

def ExchangeFault.message : ExchangeFault → Text
  | .nulInArgument => "embedded null byte".toList
  | .notText reason => reason

/-- Why a command came to no good end: it did not start, or ended with a status other than zero,
which is negative when a signal ended it. -/
inductive CommandFault where
  | notStarted (fault : SystemFault)
  | failed (arguments : List Text) (status : Int)
deriving DecidableEq, Repr

namespace CommandFault

def signals : List (Nat × String) :=
  [(1, "SIGHUP"),
   (2, "SIGINT"),
   (3, "SIGQUIT"),
   (4, "SIGILL"),
   (5, "SIGTRAP"),
   (6, "SIGABRT"),
   (7, "SIGBUS"),
   (8, "SIGFPE"),
   (9, "SIGKILL"),
   (10, "SIGUSR1"),
   (11, "SIGSEGV"),
   (12, "SIGUSR2"),
   (13, "SIGPIPE"),
   (14, "SIGALRM"),
   (15, "SIGTERM"),
   (16, "SIGSTKFLT"),
   (17, "SIGCHLD"),
   (18, "SIGCONT"),
   (19, "SIGSTOP"),
   (20, "SIGTSTP"),
   (21, "SIGTTIN"),
   (22, "SIGTTOU"),
   (23, "SIGURG"),
   (24, "SIGXCPU"),
   (25, "SIGXFSZ"),
   (26, "SIGVTALRM"),
   (27, "SIGPROF"),
   (28, "SIGWINCH"),
   (29, "SIGIO"),
   (30, "SIGPWR"),
   (31, "SIGSYS"),
   (34, "SIGRTMIN"),
   (64, "SIGRTMAX")]

def ending (status : Int) : Text :=
  if status < 0 then
    match signals.lookup status.natAbs with
    | some name =>
      "died with <Signals.".toList ++ name.toList ++ ": ".toList ++ Text.ofNat status.natAbs ++
        ">.".toList
    | none => "died with unknown signal ".toList ++ Text.ofNat status.natAbs ++ ".".toList
  else "returned non-zero exit status ".toList ++ Text.ofInt status ++ ".".toList

def message : CommandFault → Text
  | .notStarted fault => fault.message
  | .failed arguments status =>
    "Command '".toList ++ Quoted.list arguments ++ "' ".toList ++ ending status

end CommandFault

/-- Why there is no output of a command. -/
inductive OutputFault where
  | command (fault : CommandFault)
  | exchange (fault : ExchangeFault)
deriving DecidableEq, Repr

/-- The documented ways in which a report ends early. -/
inductive SourceFault where
  | noProcessTable
  | processTable (fault : SystemFault)
  | systemUptime (fault : BootFault)
  | containerUptime (fault : StatFault)
  | recordFile (path : Text) (fault : SystemFault)
  | bootTime (fault : BootFault)
  | sessionList (fault : CommandFault)
deriving DecidableEq, Repr

def SourceFault.message : SourceFault → Text
  | .noProcessTable => "Unable to load process information: /proc is required".toList
  | .processTable fault => "Unable to load process information: ".toList ++ fault.message
  | .systemUptime fault => "Cannot get system uptime: ".toList ++ fault.message
  | .containerUptime fault => "Cannot get container uptime: ".toList ++ fault.message
  | .recordFile path fault =>
    "Cannot read ".toList ++ path ++ ": ".toList ++ fault.message
  | .bootTime fault => "Cannot get boot time: ".toList ++ fault.message
  | .sessionList fault => "error getting sessions: ".toList ++ fault.message

inductive Fault where
  | source (fault : SourceFault)
  | load (fault : LoadFault)
  | exchange (fault : ExchangeFault)
  | stat (fault : StatFault)
  | numeral (fault : NumeralFault)
  | number (fault : NumberFault)
  | clock (fault : ClockFault)
  | encoding (fault : EncodeFault)
  | width (fault : WidthFault)
deriving DecidableEq, Repr

namespace Fault

def message : Fault → Text
  | source fault => fault.message
  | load fault => fault.message
  | exchange fault => fault.message
  | stat fault => fault.message
  | numeral fault => fault.message
  | number fault => fault.message
  | clock fault => fault.message
  | encoding fault => fault.message
  | width fault => fault.message

def isSource : Fault → Bool
  | source _ => true
  | _ => false

end Fault

end LoginReport
