import LoginReport.Session.Basic
import LoginReport.Terminal

set_option autoImplicit false

/-!
# Machines with one terminal

The smallest machines on which a session has a terminal, and the sessions on them: nothing runs, and
every name leads to the same terminal.
-/

namespace LoginReport

def LoginSession.ofLeader (uid leader : Int) : LoginSession where
  username := ['u']
  tty := ['1']
  leader := leader
  startTime := .zero
  uid := some uid

namespace Machine

def bare : Machine where
  now := .zero
  zone := 0
  device := fun _ => none
  userId := fun _ => none
  contents := fun path => .error ⟨2, some path⟩
  environment := fun _ => none
  terminalColumns := none
  clockTicks := none
  hasProcessTable := true
  processes := []
  bootTime := .ok .zero
  userCount := .ok 0
  loadAverage := .ok ⟨.zero, .zero, .zero⟩
  hasRegistry := false
  registryCommand := none
  run := fun arguments => .notStarted ⟨2, arguments.head?⟩

/-- There are no files but these. -/
def withFiles (machine : Machine) (files : List (Text × Bytes)) : Machine :=
  { machine with
    contents := fun path =>
      match files.lookup path with
      | some data => .ok data
      | none => .error ⟨2, some path⟩ }

/-- One command comes to another end. -/
def withOutcome (machine : Machine) (arguments : List Text) (outcome : CommandOutcome) : Machine :=
  { machine with run := fun other => if other = arguments then outcome else machine.run other }

theorem run_withOutcome (machine : Machine) (arguments : List Text) (outcome : CommandOutcome) :
    (machine.withOutcome arguments outcome).run arguments = outcome := if_pos rfl

theorem run_withOutcome_of_ne (machine : Machine) {arguments other : List Text}
    (outcome : CommandOutcome) (h : other ≠ arguments) :
    (machine.withOutcome arguments outcome).run other = machine.run other := if_neg h

/-- The terminal was last read at the epoch. -/
def withTerminal (machine : Machine) (number : Int) : Machine :=
  { machine with device := fun _ => some ⟨true, number, .zero⟩ }

end Machine

end LoginReport
