import LoginReport.Machine

set_option autoImplicit false

/-!
# Terminals

A session names its terminal, and the name leads to a device: an absolute path as it is, any other
name in the places where terminals stand.
-/

namespace LoginReport.Terminal

/-- The letters, digits and slashes at the beginning of a terminal's name. -/
def clean (name : Text) : Text := name.takeWhile fun c => c.isAlphanum || c == '/'

/-- The number of no terminal. -/
def missing : Int := -1

def paths (name : Text) : List Text :=
  ["/dev/".toList ++ name, "/dev/tty".toList ++ name, "/dev/pts/".toList ++ name]

def characterDevice (machine : Machine) (path : Text) : Option Int :=
  match machine.device path with
  | some device => if device.isCharacter then some device.number else none
  | none => none

def isAbsolute (name : Text) : Bool := name.head? == some '/'

/-- The number of the device of an absolute path, of whatever kind the device is. -/
def absoluteDevice (machine : Machine) (name : Text) : Option Int :=
  if isAbsolute name then (machine.device name).map Device.number else none

/-- The number of the terminal of a name: of its absolute path, or else of the first character
device among its places. -/
def number (machine : Machine) (name : Text) : Int :=
  match absoluteDevice machine name with
  | some number => number
  | none => ((paths name).findSome? (characterDevice machine)).getD missing

/-- Whole seconds since the terminal was last read, zero where it has no device. -/
def idleSeconds (machine : Machine) (name : Text) (now : Binary64) : Except NumberFault Int :=
  match machine.device ("/dev/".toList ++ name) with
  | none => .ok 0
  | some device => (now.sub device.accessed).trunc

end LoginReport.Terminal
