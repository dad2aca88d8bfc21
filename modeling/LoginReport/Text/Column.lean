import LoginReport.Text.Basic

set_option autoImplicit false

/-!
# Columns

A column is text filled up with blanks to a width. The width may be any integer, but there is no
text whose length does not fit a signed machine word, and the ways to make a column differ in how
they refuse one. Memory is taken to be large enough for every text whose length fits.
-/

namespace LoginReport

/-- Why there is no column of a width. -/
inductive WidthFault where
  | negative
  | tooManyDigits
  | beyondWord
  | beyondIndex
  | tooLong
deriving DecidableEq, Repr

def WidthFault.message : WidthFault → Text
  | .negative => "Sign not allowed in string format specifier".toList
  | .tooManyDigits => "Too many decimal digits in format string".toList
  | .beyondWord => "Python int too large to convert to C ssize_t".toList
  | .beyondIndex => "cannot fit 'int' into an index-sized integer".toList
  | .tooLong => "strings are too large to concat".toList

namespace Column

/-- The greatest number that fits a signed machine word. -/
def greatestWord : Int := 0x7fffffffffffffff

/-- The number fits a signed machine word. -/
def IsWord (n : Int) : Prop := -greatestWord - 1 ≤ n ∧ n ≤ greatestWord

instance decidableIsWord (n : Int) : Decidable (IsWord n) :=
  inferInstanceAs (Decidable (-greatestWord - 1 ≤ n ∧ n ≤ greatestWord))

/-- As many blanks. -/
def blanks (width : Int) : Except WidthFault Text :=
  if greatestWord < width then .error .beyondIndex
  else .ok (List.replicate width.toNat ' ')

/-- A text in a column; a negative width is the least. -/
def filled (s : Text) (width : Int) : Except WidthFault Text :=
  if IsWord width then .ok (s.padRight width ' ') else .error .beyondWord

/-- A text in a column that has no sign in its width. -/
def unsigned (s : Text) (width : Int) : Except WidthFault Text :=
  if greatestWord < width.natAbs then .error .tooManyDigits
  else if width < 0 then .error .negative
  else .ok (s.padRight width ' ')

/-- A text with another behind it. -/
def joined (s t : Text) : Except WidthFault Text :=
  if greatestWord < s.length + t.length then .error .tooLong else .ok (s ++ t)

theorem blanks_eq_ok_iff {width : Int} {t : Text} :
    blanks width = .ok t ↔ width ≤ greatestWord ∧ t = List.replicate width.toNat ' ' := by
  unfold blanks
  split
  · rename_i h
    simp [Int.not_le.mpr h]
  · rename_i h
    simp [Int.not_lt.mp h, eq_comm]

theorem filled_eq_ok_iff {s t : Text} {width : Int} :
    filled s width = .ok t ↔ IsWord width ∧ t = s.padRight width ' ' := by
  unfold filled
  split
  · rename_i h
    simp [h, eq_comm]
  · rename_i h
    simp [h]

theorem unsigned_eq_ok_iff {s t : Text} {width : Int} :
    unsigned s width = .ok t ↔ 0 ≤ width ∧ width ≤ greatestWord ∧ t = s.padRight width ' ' := by
  unfold unsigned
  split
  · rename_i h
    constructor
    · intro hfault
      cases hfault
    · rintro ⟨hlow, hhigh, -⟩
      omega
  · split
    · rename_i h
      simp [Int.not_le.mpr h]
    · rename_i hword hsign
      have hlow : 0 ≤ width := by omega
      have hhigh : width ≤ greatestWord := by omega
      simp [hlow, hhigh, eq_comm]

theorem joined_eq_ok_iff {s t r : Text} :
    joined s t = .ok r ↔ (s.length + t.length : Int) ≤ greatestWord ∧ r = s ++ t := by
  unfold joined
  split
  · rename_i h
    simp [Int.not_le.mpr h]
  · rename_i h
    simp [Int.not_lt.mp h, eq_comm]

/-- What is filled up to the room behind a text fills the width with it. -/
theorem joined_padRight_eq_ok_iff {s t r : Text} {width : Int} :
    joined s (t.padRight (width - s.length) ' ') = .ok r ↔
      max (s.length + t.length : Int) width ≤ greatestWord ∧ r = (s ++ t).padRight width ' ' := by
  have hlength : (s.length + (max t.length (width - s.length).toNat : Nat) : Int) =
      max (s.length + t.length : Int) width := by omega
  rw [joined_eq_ok_iff, Text.length_padRight, Text.append_padRight, hlength]

end Column

end LoginReport
