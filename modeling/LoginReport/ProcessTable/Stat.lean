import LoginReport.Machine
import LoginReport.Text.Utf8

set_option autoImplicit false

/-!
# Status lines

A process's status line holds its number, its name in parentheses and then fields between blanks.
The name may hold anything, so it ends at the last closing parenthesis.
-/

namespace LoginReport

structure Stat where
  name : Text
  group : Int
  terminal : Int
  foreground : Int
  userTicks : Int
  systemTicks : Int
  startTicks : Int
deriving DecidableEq, Repr

namespace Stat

def opening : UInt8 := 0x28

def closing : UInt8 := 0x29

def firstIndex? (target : UInt8) : Bytes → Option Nat
  | [] => none
  | b :: rest => if b = target then some 0 else (firstIndex? target rest).map (· + 1)

def lastIndex? (target : UInt8) : Bytes → Option Nat
  | [] => none
  | b :: rest =>
    match lastIndex? target rest with
    | some i => some (i + 1)
    | none => if b = target then some 0 else none

/-- Where the name begins: behind the first opening parenthesis, or at once. -/
def nameStart (line : Bytes) : Nat :=
  match firstIndex? opening line with
  | some i => i + 1
  | none => 0

/-- Where the name ends, and where the fields begin: one byte behind the parenthesis that ends the
name. A line without one loses its last byte to the name and its first to the fields. -/
def nameEnd (line : Bytes) : Nat × Nat :=
  match lastIndex? closing line with
  | some i => (i, i + 2)
  | none => (line.length - 1, 1)

def nameBytes (line : Bytes) : Bytes := (line.take (nameEnd line).1).drop (nameStart line)

def fieldBytes (line : Bytes) : Bytes := line.drop (nameEnd line).2

def field (fields : List Bytes) (index : Nat) : Except StatFault Int :=
  match fields[index]? with
  | none => .error .missingField
  | some bytes => (Numeral.ofBytes bytes).mapError .numeral

/-- The fields are counted from the one behind the name. -/
def ofLine (line : Bytes) : Except StatFault Stat := do
  let name := Utf8.decode (nameBytes line)
  let fields := Text.runs Text.isBlankByte (fieldBytes line)
  let group ← field fields 2
  let terminal ← field fields 4
  let foreground ← field fields 5
  let userTicks ← field fields 11
  let systemTicks ← field fields 12
  let startTicks ← field fields 19
  return { name, group, terminal, foreground, userTicks, systemTicks, startTicks }

def path (pid : Int) : Text := "/proc/".toList ++ Text.ofInt pid ++ "/stat".toList

def ofProcess (machine : Machine) (pid : Int) : Except StatFault Stat :=
  match machine.contents (path pid) with
  | .ok line => ofLine line
  | .error fault => .error (.unreadable fault)

end Stat

end LoginReport
