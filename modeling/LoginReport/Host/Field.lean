import LoginReport.Text.Column

set_option autoImplicit false

/-!
# Host fields

A host field is raw bytes that need not be text. Only visible ASCII is shown from it. The first
NUL ends it, and the first other byte that cannot be shown ends it with a dash.
-/

namespace LoginReport.HostField

def isPrintable (b : UInt8) : Bool := 0x20 ≤ b && b < 0x7f

def isVisible (b : UInt8) : Bool := 0x20 < b && b < 0x7f

def character (b : UInt8) : Char := Char.ofNat b.toNat

def copy : Bytes → Text
  | [] => []
  | b :: rest =>
    if b = 0 then []
    else if isVisible b then character b :: copy rest
    else ['-']

/-- A name is never blank. -/
def orDash : Text → Text
  | [] => ['-']
  | s => s

/-- What a column shows of the host name in the first `length` bytes. -/
def shownName (raw : Bytes) (length width : Int) : Text :=
  orDash (copy (raw.take (min length width).toNat))

/-- The host name of the first `length` bytes, in a column. -/
def name (raw : Bytes) (length width : Int) : Except WidthFault Text :=
  Column.filled (shownName raw length width) width

def colon : UInt8 := 0x3a

def percent : UInt8 := 0x25

/-- The bytes from the first `target` on, if only printable bytes stand before it. -/
def seek (target : UInt8) : Bytes → Option Bytes
  | [] => none
  | b :: rest =>
    if b = target then some (b :: rest)
    else if isPrintable b then seek target rest
    else none

/-- A single colon opens the number of a display. After a second colon the host is an address, and
a percent sign opens the name of its interface. -/
def suffix? (field : Bytes) : Option Bytes :=
  match seek colon field with
  | none => none
  | some display =>
    match seek colon display.tail with
    | none => some display
    | some address => seek percent address

/-- What a column shows of the display or interface in the first `length` bytes. -/
def shownSuffix (raw : Bytes) (length width : Int) : Text :=
  match suffix? (raw.take length.toNat) with
  | none => []
  | some bytes => copy (bytes.take width.toNat)

/-- The display or interface of the first `length` bytes, in a column. -/
def suffix (raw : Bytes) (length width : Int) : Except WidthFault Text :=
  if width ≤ 0 then .ok []
  else do
    let shown := shownSuffix raw length width
    let rest ← Column.blanks (width - shown.length)
    Column.joined shown rest

theorem toNat_character (b : UInt8) : (character b).toNat = b.toNat := Text.toNat_ofNat_byte b

theorem character_visible (b : UInt8) (h : isVisible b = true) :
    0x20 < (character b).toNat ∧ (character b).toNat < 0x7f := by
  simp only [isVisible, Bool.and_eq_true, decide_eq_true_eq, UInt8.lt_iff_toNat_lt] at h
  rw [toNat_character]
  exact h

theorem length_copy_le (raw : Bytes) : (copy raw).length ≤ raw.length := by
  induction raw with
  | nil => simp [copy]
  | cons b rest ih =>
    unfold copy
    split
    · simp
    · split
      · simpa using ih
      · simp

/-- What is copied is visible. -/
theorem copy_visible (raw : Bytes) (c : Char) (h : c ∈ copy raw) :
    0x20 < c.toNat ∧ c.toNat < 0x7f := by
  induction raw with
  | nil => simp [copy] at h
  | cons b rest ih =>
    unfold copy at h
    split at h
    · simp at h
    · split at h
      · rename_i hv
        rcases List.mem_cons.mp h with rfl | hr
        · exact character_visible b hv
        · exact ih hr
      · rw [List.mem_singleton] at h
        subst h
        decide

theorem orDash_ne_nil (s : Text) : orDash s ≠ [] := by
  cases s <;> simp [orDash]

theorem length_orDash (s : Text) : (orDash s).length = max s.length 1 := by
  cases s with
  | nil => rfl
  | cons c rest =>
    simp only [orDash, List.length_cons]
    omega

theorem length_shownName_le (raw : Bytes) (length width : Int) (h : 1 ≤ width) :
    (shownName raw length width).length ≤ width.toNat := by
  have hc := length_copy_le (raw.take (min length width).toNat)
  rw [List.length_take] at hc
  rw [shownName, length_orDash]
  omega

theorem name_eq_ok_iff {raw : Bytes} {length width : Int} {s : Text} :
    name raw length width = .ok s ↔
      Column.IsWord width ∧ s = (shownName raw length width).padRight width ' ' :=
  Column.filled_eq_ok_iff

theorem length_shownSuffix_le (raw : Bytes) (length width : Int) :
    (shownSuffix raw length width).length ≤ width.toNat := by
  unfold shownSuffix
  split
  · exact Nat.zero_le _
  · rename_i bytes _
    have h := length_copy_le (bytes.take width.toNat)
    rw [List.length_take] at h
    omega

end LoginReport.HostField
