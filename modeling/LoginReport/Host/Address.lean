import LoginReport.Text.Basic

set_option autoImplicit false

/-!
# Remote addresses

An address field has sixteen bytes. An address of four bytes stands at their beginning before
zeros, or at their end in the mapped form; any other nonzero bytes are an address of sixteen. No
address was recorded where all bytes are zero.
-/

namespace LoginReport

inductive RemoteAddress where
  | four (bytes : Bytes)
  | sixteen (bytes : Bytes)
deriving DecidableEq, Repr

namespace RemoteAddress

/-- What stands before four bytes in the mapped form. -/
def mappedMark : Bytes := List.replicate 10 0 ++ [0xff, 0xff]

def unmap (field : Bytes) : Bytes :=
  if field.take 12 = mappedMark then (field.drop 12).take 4 ++ List.replicate 12 0 else field

/-- The first sixteen bytes, with zeros for those that are missing. -/
def fill (field : Bytes) : Bytes := (field ++ List.replicate 16 0).take 16

def ofField (field : Bytes) : Option RemoteAddress :=
  let bytes := unmap (fill field)
  if (bytes.drop 4).any (· != 0) then some (sixteen bytes)
  else if (bytes.take 4).any (· != 0) then some (four (bytes.take 4))
  else none

def groups : Bytes → List Nat
  | a :: b :: rest => (a.toNat * 256 + b.toNat) :: groups rest
  | _ => []

/-- Where the first of the longest runs of zero groups begins, counted from `start`, and its
length. -/
def longestZeros (start : Nat) : List Nat → Nat × Nat
  | [] => (start, 0)
  | group :: rest =>
    let here := ((group :: rest).takeWhile (· == 0)).length
    let later := longestZeros (start + 1) rest
    if here < later.2 then later else (start, here)

def joinGroups (groups : List Nat) : Text := Text.join [':'] (groups.map (Nat.toDigits 16))

/-- Groups of sixteen bits in hexadecimal; the first longest run of two or more zero groups is left
out between two colons. -/
def groupText (groups : List Nat) : Text :=
  let zeros := longestZeros 0 groups
  if 2 ≤ zeros.2 then
    joinGroups (groups.take zeros.1) ++ [':', ':'] ++ joinGroups (groups.drop (zeros.1 + zeros.2))
  else joinGroups groups

def text : RemoteAddress → Text
  | four bytes => Text.join ['.'] (bytes.map fun b => Text.ofNat b.toNat)
  | sixteen bytes => groupText (groups bytes)

/-- A long address is cut to the column; a short one that does not fit is not shown at all. -/
def column (width : Int) : Option RemoteAddress → Text
  | none => []
  | some (four bytes) =>
    let s := text (four bytes)
    if (s.length : Int) ≤ width then s else []
  | some (sixteen bytes) => (text (sixteen bytes)).cut width

theorem length_fill (field : Bytes) : (fill field).length = 16 := by
  simp only [fill, List.length_take, List.length_append, List.length_replicate]
  omega

end RemoteAddress

end LoginReport
