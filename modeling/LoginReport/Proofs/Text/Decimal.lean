import LoginReport.Text.Basic
import Mathlib.Algebra.Ring.Nat

set_option autoImplicit false

/-!
# Decimal numerals in columns

A number of at most `k` digits has at most `k` characters, so a number below a hundred fills two
columns, with blanks or with zeros. The filling hides nothing: the number can be read off its
digits.
-/

namespace LoginReport.Text

theorem length_ofNat_le_iff (n k : Nat) (hk : 0 < k) : (ofNat n).length ≤ k ↔ n < 10 ^ k :=
  Nat.length_toDigits_le_iff (by omega) hk

theorem length_ofInt_of_lt_hundred (n : Int) (h0 : 0 ≤ n) (h : n < 100) :
    (ofInt n).length ≤ 2 := by
  obtain ⟨m, rfl⟩ := Int.eq_ofNat_of_zero_le h0
  exact (length_ofNat_le_iff m 2 (by omega)).mpr (by omega)

theorem length_blankTwo (n : Int) (h0 : 0 ≤ n) (h : n < 100) : (blankTwo n).length = 2 := by
  have hl := length_ofInt_of_lt_hundred n h0 h
  rw [blankTwo, length_padLeft]
  omega

theorem length_zeroTwo (n : Int) (h0 : 0 ≤ n) (h : n < 100) : (zeroTwo n).length = 2 := by
  have hl := length_ofInt_of_lt_hundred n h0 h
  rw [zeroTwo, length_padLeft]
  omega

/-! ## Numerals read back -/

theorem ofNat_injective : Function.Injective ofNat := by
  intro a b h
  calc
    a = Nat.ofDigitChars 10 (ofNat a) 0 := Nat.ofDigitChars_ten_toDigits.symm
    _ = Nat.ofDigitChars 10 (ofNat b) 0 := by rw [h]
    _ = b := Nat.ofDigitChars_ten_toDigits

theorem isDigit_of_mem_ofNat {n : Nat} {c : Char} (h : c ∈ ofNat n) : c.isDigit = true :=
  Nat.isDigit_of_mem_toDigits (by omega) (by omega) h

/-- Zeros in front are digits that add nothing to the number. -/
theorem ofDigitChars_zeros (zeros n : Nat) :
    Nat.ofDigitChars 10 (List.replicate zeros '0' ++ ofNat n) 0 = n := by
  rw [Nat.ofDigitChars_append, Nat.ofDigitChars_replicate_zero]
  exact Nat.ofDigitChars_ten_toDigits

theorem isDigit_of_mem_zeros {zeros n : Nat} {c : Char}
    (h : c ∈ List.replicate zeros '0' ++ ofNat n) : c.isDigit = true := by
  rcases List.mem_append.mp h with hfill | hdigit
  · rw [List.eq_of_mem_replicate hfill]
    rfl
  · exact isDigit_of_mem_ofNat hdigit

theorem isDigit_of_mem_zeroTwo {n : Nat} {c : Char} (h : c ∈ zeroTwo n) : c.isDigit = true :=
  isDigit_of_mem_zeros h

theorem blank_or_isDigit_of_mem_blankTwo {n : Nat} {c : Char} (h : c ∈ blankTwo n) :
    c = ' ' ∨ c.isDigit = true := by
  rcases List.mem_append.mp h with hfill | hdigit
  · exact Or.inl (List.eq_of_mem_replicate hfill)
  · exact Or.inr (isDigit_of_mem_ofNat hdigit)

theorem zeroTwo_injective {a b : Nat} (h : zeroTwo a = zeroTwo b) : a = b := by
  have hread (n : Nat) : Nat.ofDigitChars 10 (zeroTwo n) 0 = n := ofDigitChars_zeros _ n
  rw [← hread a, h, hread]

/-- Without the blanks in front, the digits are left. -/
theorem blankTwo_injective {a b : Nat} (h : blankTwo a = blankTwo b) : a = b := by
  have hread : ∀ n : Nat, (blankTwo n).filter Char.isDigit = ofNat n := by
    intro n
    change (List.replicate _ ' ' ++ ofNat n).filter Char.isDigit = ofNat n
    rw [List.filter_append, List.filter_replicate_of_neg (by decide), List.nil_append]
    exact List.filter_eq_self.mpr fun c => isDigit_of_mem_ofNat
  apply ofNat_injective
  rw [← hread a, h, hread]

end LoginReport.Text
