import LoginReport.Printout
import LoginReport.Text.Plain

set_option autoImplicit false

/-!
# The command line

Arguments are switches and the name of a user, in any order. Letters of switches may share a dash,
two dashes alone end the switches, and a dash alone is a name. A switch may be given again; it
stays on.
-/

namespace LoginReport.CommandLine

inductive Switch where
  | container
  | noHeader
  | noCurrent
  | short
  | toggleFrom
  | oldStyle
  | addresses
  | pids
  | debug
  | version
  | help
deriving DecidableEq, Repr

inductive Item where
  | switch (switch : Switch)
  | user (name : Text)
deriving DecidableEq, Repr

def letterSwitch? : Char → Option Switch
  | 'c' => some .container
  | 'h' => some .noHeader
  | 'u' => some .noCurrent
  | 's' => some .short
  | 'f' => some .toggleFrom
  | 'o' => some .oldStyle
  | 'i' => some .addresses
  | 'p' => some .pids
  | 'V' => some .version
  | _ => none

def longSwitches : List (String × Switch) :=
  [("--container", .container), ("--no-header", .noHeader), ("--no-current", .noCurrent),
   ("--short", .short), ("--from", .toggleFrom), ("--old-style", .oldStyle),
   ("--ip-addr", .addresses), ("--pids", .pids), ("--debug", .debug), ("--version", .version),
   ("--help", .help)]

def longSwitch? (word : Text) : Option Switch :=
  (longSwitches.find? fun entry => entry.1.toList == word).map Prod.snd

/-- The switches of letters behind one dash. All of them have to be known. -/
def letters : Text → Option (List Switch)
  | [] => some []
  | c :: rest => do
    let switch ← letterSwitch? c
    let more ← letters rest
    return switch :: more

/-- The switches of a word that begins with a dash. No switch takes a value. -/
def switches? (word : Text) : Option (List Switch) :=
  match longSwitch? word, word with
  | some switch, _ => some [switch]
  | none, '-' :: '-' :: _ => none
  | none, '-' :: rest => letters rest
  | none, _ => none

def isSwitchWord : Text → Bool
  | '-' :: _ :: _ => true
  | _ => false

/-- The items of a line of arguments; nothing where a switch is not known. -/
def items? : List Text → Option (List Item)
  | [] => some []
  | word :: rest =>
    if word = ['-', '-'] then some (rest.map .user)
    else if isSwitchWord word then do
      let switches ← switches? word
      let more ← items? rest
      return switches.map .switch ++ more
    else (items? rest).map (.user word :: ·)

def users (items : List Item) : List Text :=
  items.filterMap fun
    | .user name => some name
    | .switch _ => none

def has (items : List Item) (switch : Switch) : Bool := items.contains (.switch switch)

/-- The first item that asks for a text about the program in place of a report. -/
def request? (items : List Item) : Option Switch :=
  items.findSome? fun
    | .switch .version => some .version
    | .switch .help => some .help
    | _ => none

def versionText : List Text := ["pyw, version 0.1.0".toList]

def helpText : List Text :=
  ["Usage: pyw [OPTIONS] [USER]",
   "",
   "  Show who is logged on and what they are doing.",
   "",
   "Options:",
   "  -c, --container   Show container uptime",
   "  -h, --no-header   Do not print header",
   "  -u, --no-current  Ignore current process username",
   "  -s, --short       Short format",
   "  -f, --from        Toggle remote hostname field",
   "  -o, --old-style   Old style output",
   "  -i, --ip-addr     Display IP address instead of hostname (if possible)",
   "  -p, --pids        Show the PID(s) of processes in WHAT",
   "  --debug           Log skipped sessions to stderr",
   "  -V, --version     Show the version and exit.",
   "  --help            Show this message and exit."].map String.toList

def reportSwitches (items : List Item) (user : Option Text) : Switches :=
  { container := has items .container
    header := !has items .noHeader
    ignoreUser := has items .noCurrent
    short := has items .short
    toggleFrom := has items .toggleFrom
    oldStyle := has items .oldStyle
    addresses := has items .addresses
    pids := has items .pids
    user }

inductive Request where
  | unusable
  | tell (lines : List Text)
  | report (switches : Switches) (debugging : Bool)
deriving DecidableEq, Repr

/-- What a line of arguments asks for. More than one user is too many. -/
def request (arguments : List Text) : Request :=
  match items? arguments with
  | none => .unusable
  | some items =>
    match request? items, users items with
    | some .version, _ => .tell versionText
    | some _, _ => .tell helpText
    | none, [] => .report (reportSwitches items none) (has items .debug)
    | none, [user] => .report (reportSwitches items (some user)) (has items .debug)
    | none, _ => .unusable

/-- How a run of the command ended. A fault that no documented ending covers is `escaped`; the lines
are those of the report, as they were made. -/
structure Outcome where
  status : Nat
  lines : List Text
  notices : List Notice
  escaped : Option Fault
deriving DecidableEq, Repr

def report (machine : Machine) (switches : Switches) : Run Unit := do
  let settings ← Settings.read machine.environment machine.terminalColumns none switches
  Printout.print machine settings

/-- A broken pipe ends the command without a word: nobody reads on. -/
def isBrokenPipe : Fault → Bool
  | .load fault => fault.number? == some 32
  | _ => false

/-- A documented fault is told in a notice; the status is one after any fault. -/
def outcome (run : Run Unit) (debugging : Bool) : Outcome :=
  match run.result with
  | .ok _ => ⟨0, run.lines, Notice.kept debugging run.notices, none⟩
  | .error (.source fault) =>
    ⟨1, run.lines, Notice.kept debugging (run.notices ++ [.ended fault.message]), none⟩
  | .error fault =>
    ⟨1, run.lines, Notice.kept debugging run.notices,
      if isBrokenPipe fault then none else some fault⟩

def execute (machine : Machine) (arguments : List Text) : Outcome :=
  match request arguments with
  | .unusable => ⟨2, [], [], none⟩
  | .tell lines => ⟨0, lines, [], none⟩
  | .report switches debugging => outcome (report machine switches) debugging

/-- What is printed: every line as plain text. -/
def output (outcome : Outcome) : Text := outcome.lines.flatMap Text.plainLine

end LoginReport.CommandLine
