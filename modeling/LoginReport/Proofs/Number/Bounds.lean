import LoginReport.Proofs.Number.Overflow

set_option autoImplicit false

/-!
# Numbers within bounds

Rounding at most doubles a number, and leaves at least half of any that is one unit or more. So
arithmetic on numbers far below the greatest finite one gives finite numbers.
-/

namespace LoginReport

theorem weight_lt {a b : Nat} (h : a < b) : weight a < weight b := Nat.pow_lt_pow_right (by omega) h

variable {num den : Nat}

theorem roundSignificant_mul (num den : Nat) :
    roundSignificant num den * den =
      roundDiv num (den * weight (lastPlace num den)) * (den * weight (lastPlace num den)) := by
  rw [roundSignificant, Nat.mul_assoc, Nat.mul_comm (weight _) den]

/-- Half a digit or less goes to zero, and more than that is at most doubled. -/
theorem roundSignificant_mul_le (num : Nat) (hd : 0 < den) :
    roundSignificant num den * den ≤ 2 * num := by
  have hdigit : 0 < den * weight (lastPlace num den) := Nat.mul_pos hd (weight_pos _)
  rw [roundSignificant_mul]
  by_cases hsmall : 2 * num < den * weight (lastPlace num den)
  · have hzero : roundDiv num (den * weight (lastPlace num den)) ≤ 0 :=
      roundDiv_le hdigit (by omega)
    rw [Nat.le_zero.mp hzero, Nat.zero_mul]
    exact Nat.zero_le _
  · have hwithin := (roundDiv_within num _ hdigit).2
    omega

theorem le_roundSignificant_mul (hd : 0 < den) (h : den ≤ num) :
    num ≤ 2 * (roundSignificant num den * den) := by
  have hdigit : 0 < den * weight (lastPlace num den) := Nat.mul_pos hd (weight_pos _)
  have hle : den * weight (lastPlace num den) ≤ num := by
    rcases Nat.eq_zero_or_pos (lastPlace num den) with hplace | hplace
    · rw [hplace]
      change den * 1 ≤ num
      omega
    · exact Nat.le_trans (Nat.le_mul_of_pos_left _ (weight_pos 52)) (digits_le hd hplace)
  rw [roundSignificant_mul]
  have hwithin := (roundDiv_within num _ hdigit).1
  have hone : 1 ≤ roundDiv num (den * weight (lastPlace num den)) := by
    by_contra hzero
    rw [Nat.lt_one_iff.mp (Nat.lt_of_not_le hzero), Nat.zero_mul] at hwithin
    omega
  have hdigits := Nat.mul_le_mul_right (den * weight (lastPlace num den)) hone
  omega

namespace Binary64

/-- The number is finite and at most this large, below zero or above. -/
def IsWithin (x : Binary64) (bound : Nat) : Prop :=
  ∃ negative units, x = finite negative units ∧ units ≤ bound * scale

/-- A bound that no finite number has to exceed, even where it is rounded. -/
def farBelow : Nat := weight 1000

theorem mul_scale_lt_unitLimit {bound : Nat} (h : bound ≤ farBelow) :
    bound * scale < unitLimit := by
  have hlimit : unitLimit = weight 1024 * scale := by rw [unitLimit, scale, ← weight_add]
  have hfar : farBelow < weight 1024 := weight_lt (by omega : 1000 < 1024)
  rw [hlimit]
  exact Nat.mul_lt_mul_of_pos_right (Nat.lt_of_le_of_lt h hfar) scale_pos

variable {x y : Binary64} {bound other : Nat}

theorem IsWithin.mono (h : x.IsWithin bound) (hle : bound ≤ other) : x.IsWithin other := by
  obtain ⟨negative, units, rfl, hunits⟩ := h
  exact ⟨negative, units, rfl, Nat.le_trans hunits (Nat.mul_le_mul_right scale hle)⟩

theorem IsWithin.trunc (h : x.IsWithin bound) : ∃ n, x.trunc = .ok n := by
  obtain ⟨negative, units, rfl, -⟩ := h
  exact ⟨_, rfl⟩

theorem IsWithin.neg (h : x.IsWithin bound) : x.neg.IsWithin bound := by
  obtain ⟨negative, units, rfl, hunits⟩ := h
  exact ⟨!negative, units, rfl, hunits⟩

theorem isWithin_ofUnits (negative : Bool) (hd : 0 < den) (hbound : bound ≤ farBelow)
    (h : 2 * num ≤ bound * scale * den) : (ofUnits negative num den).IsWithin bound := by
  have hround : roundSignificant num den ≤ bound * scale :=
    Nat.le_of_mul_le_mul_right (Nat.le_trans (roundSignificant_mul_le num hd) h) hd
  have hlimit := Nat.lt_of_le_of_lt hround (mul_scale_lt_unitLimit hbound)
  exact ⟨negative, _, ofUnits_of_lt negative hlimit, hround⟩

theorem IsWithin.add (hx : x.IsWithin bound) (hy : y.IsWithin other)
    (h : 2 * (bound + other) ≤ farBelow) : (x.add y).IsWithin (2 * (bound + other)) := by
  obtain ⟨s, a, rfl, ha⟩ := hx
  obtain ⟨t, b, rfl, hb⟩ := hy
  have hsum : (signedUnits s a + signedUnits t b).natAbs ≤ (bound + other) * scale := by
    have habs := Int.natAbs_add_le (signedUnits s a) (signedUnits t b)
    rw [natAbs_signedUnits, natAbs_signedUnits] at habs
    rw [Nat.add_mul]
    omega
  change (ofSignedUnits (signedUnits s a + signedUnits t b) (s && t)).IsWithin _
  unfold ofSignedUnits
  split
  · exact ⟨s && t, 0, rfl, Nat.zero_le _⟩
  · refine isWithin_ofUnits _ (by omega) h ?_
    rw [Nat.mul_one, Nat.mul_assoc]
    exact Nat.mul_le_mul_left 2 hsum

theorem IsWithin.sub (hx : x.IsWithin bound) (hy : y.IsWithin other)
    (h : 2 * (bound + other) ≤ farBelow) : (x.sub y).IsWithin (2 * (bound + other)) :=
  hx.add hy.neg h

theorem roundSignificant_whole_lt {n : Nat} (h : n < overflowThreshold) :
    roundSignificant (n * scale) 1 < unitLimit := by
  rw [roundSignificant_lt_unitLimit_iff n (by omega), Nat.mul_one]
  exact h

/-- An integer below the threshold, as its nearest number. -/
theorem ofInt?_of_lt {n : Int} (h : n.natAbs < overflowThreshold) :
    ofInt? n = .ok (finite (n < 0) (roundSignificant (n.natAbs * scale) 1)) := by
  rw [ofInt?, ofInt, ofUnits_of_lt _ (roundSignificant_whole_lt h)]
  rfl

end Binary64

end LoginReport
