set_option autoImplicit false

/-!
# Rounding a quotient

`roundDiv` rounds a quotient of natural numbers to the nearest natural number and a tie to the even
one. `roundSignificant` rounds it to 53 significant binary digits, or to a whole number when it has
fewer before the point.
-/

namespace LoginReport

def roundDiv (num den : Nat) : Nat :=
  let q := num / den
  let r := num % den
  if 2 * r < den then q
  else if den < 2 * r then q + 1
  else q + q % 2

/-- The weight of a binary digit. -/
def weight (place : Nat) : Nat := Nat.pow 2 place

/-- The place of the last kept digit. -/
def lastPlace (num den : Nat) : Nat := (num / den).log2 - 52

def roundSignificant (num den : Nat) : Nat :=
  roundDiv num (den * weight (lastPlace num den)) * weight (lastPlace num den)

/-- The result is within half a unit of the quotient. -/
theorem roundDiv_within (num den : Nat) (h : 0 < den) :
    2 * num ≤ 2 * (roundDiv num den * den) + den ∧
      2 * (roundDiv num den * den) ≤ 2 * num + den := by
  have hd := Nat.div_add_mod num den
  have hm := Nat.mod_lt num h
  have hq : (num / den + 1) * den = den * (num / den) + den := by
    rw [Nat.add_mul, Nat.one_mul, Nat.mul_comm]
  unfold roundDiv
  simp only
  split
  · rw [Nat.mul_comm (num / den)]
    omega
  · split
    · rw [hq]
      omega
    · have hp : num / den % 2 = 0 ∨ num / den % 2 = 1 := by omega
      rcases hp with hp | hp <;> rw [hp]
      · rw [Nat.add_zero, Nat.mul_comm (num / den)]
        omega
      · rw [hq]
        omega

theorem roundDiv_even_of_tie (num den : Nat) (h : 2 * (num % den) = den) :
    roundDiv num den % 2 = 0 := by
  unfold roundDiv
  simp only
  rw [if_neg (by omega), if_neg (by omega)]
  omega

theorem roundDiv_mul_self (n den : Nat) (h : 0 < den) : roundDiv (n * den) den = n := by
  simp [roundDiv, Nat.mul_div_cancel n h, Nat.mul_mod_left, h]

end LoginReport
