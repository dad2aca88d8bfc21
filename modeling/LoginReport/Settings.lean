import LoginReport.Run

set_option autoImplicit false

/-!
# Report settings

The switches of a run, the environment and the width of the terminal decide what a report shows and
how wide its columns are. The command column gets what the other columns leave of the width.
-/

namespace LoginReport

structure Switches where
  container : Bool := false
  header : Bool := true
  ignoreUser : Bool := false
  short : Bool := false
  toggleFrom : Bool := false
  oldStyle : Bool := false
  addresses : Bool := false
  pids : Bool := false
  user : Option Text := none
deriving DecidableEq, Repr

structure Settings where
  container : Bool := false
  header : Bool := true
  /-- Any user's process may be shown for a session. -/
  ignoreUser : Bool := false
  /-- The columns for the login time and the processor times are shown. -/
  longForm : Bool := true
  showFrom : Bool := true
  oldStyle : Bool := false
  addresses : Bool := false
  pids : Bool := false
  user : Option Text := none
  userWidth : Int := 8
  fromWidth : Int := 16
  commandWidth : Int := 80
deriving DecidableEq, Repr

namespace Settings

def onlyOwner (settings : Settings) : Bool := !settings.ignoreUser

def lowestLength : Int := 8

def highestUserLength : Int := 32

def highestFromLength : Int := 256

def widest : Int := 512

/-- A width for commands: at least seven columns and at most 512. -/
def clamp (width : Int) : Int := max 7 (min width widest)

/-- The length that the environment asks for, or the default where it asks for none or for one out
of range. -/
def lengthOf (environment : Text → Option Text) (name : Text) (high default : Int) : Run Int :=
  match environment name with
  | none => Run.pure default
  | some raw =>
    match Numeral.leading raw with
    | .error fault => Run.fail (.numeral fault)
    | .ok value =>
      if value < lowestLength ∨ high < value then
        ⟨[], [.lengthOutOfRange name lowestLength high default], .ok default⟩
      else Run.pure value

/-- The width of the terminal, or the one that the environment tells, or the widest. -/
def columns (environment : Text → Option Text) (terminal : Option Int) :
    Except NumeralFault Int :=
  let width := terminal.getD 0
  if 0 < width then .ok width
  else match environment "COLUMNS".toList with
    | some raw => Numeral.leading raw
    | none => .ok widest

/-- What the columns before the command take. -/
def taken (userWidth fromWidth : Int) (showFrom longForm : Bool) : Int :=
  21 + userWidth + (if showFrom then fromWidth else 0) + (if longForm then 20 else 0)

def ofSwitches (switches : Switches) (userWidth fromWidth width : Int) : Settings :=
  let showFrom := switches.addresses || !switches.toggleFrom
  let longForm := !switches.short
  { container := switches.container
    header := switches.header
    ignoreUser := switches.ignoreUser
    longForm
    showFrom
    oldStyle := switches.oldStyle
    addresses := switches.addresses
    pids := switches.pids
    user := switches.user
    userWidth
    fromWidth
    commandWidth := clamp (clamp width - taken userWidth fromWidth showFrom longForm) }

/-- The settings for a width, or for the width of the terminal where none is given. -/
def read (environment : Text → Option Text) (terminal : Option Int) (width : Option Int)
    (switches : Switches) : Run Settings := do
  let userWidth ← lengthOf environment "PROCPS_USERLEN".toList highestUserLength 8
  let fromWidth ← lengthOf environment "PROCPS_FROMLEN".toList highestFromLength 16
  let width ← match width with
    | some width => Run.pure width
    | none => Run.ofExcept ((columns environment terminal).mapError .numeral)
  return ofSwitches switches userWidth fromWidth width

theorem clamp_within (width : Int) : 7 ≤ clamp width ∧ clamp width ≤ 512 := by
  unfold clamp widest
  omega

theorem clamp_mono (a b : Int) (h : a ≤ b) : clamp a ≤ clamp b := by
  unfold clamp widest
  omega

end Settings

end LoginReport
