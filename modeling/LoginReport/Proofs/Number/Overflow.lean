import LoginReport.Proofs.Number.Exact
import Mathlib.Tactic.ByContra

set_option autoImplicit false

/-!
# When a quotient is too large

A quotient becomes infinite from the middle between the greatest finite number and the power of two
beyond it.
-/

namespace LoginReport

theorem roundDiv_le {num den n : Nat} (hd : 0 < den) (h : 2 * num < (2 * n + 1) * den) :
    roundDiv num den ≤ n := by
  have hwithin := (roundDiv_within num den hd).2
  have hlt : 2 * roundDiv num den * den < (2 * n + 2) * den := by
    calc
      2 * roundDiv num den * den ≤ 2 * num + den := by rwa [Nat.mul_assoc]
      _ < (2 * n + 1) * den + den := by omega
      _ = (2 * n + 2) * den := (Nat.succ_mul (2 * n + 1) den).symm
  have := Nat.lt_of_mul_lt_mul_right hlt
  omega

/-- A quotient half a unit below an even number is a tie and goes up to it. -/
theorem le_roundDiv {num den n : Nat} (hd : 0 < den) (heven : n % 2 = 0)
    (h : (2 * n - 1) * den ≤ 2 * num) : n ≤ roundDiv num den := by
  have hwithin := (roundDiv_within num den hd).1
  have hle : (2 * n - 1) * den ≤ (2 * roundDiv num den + 1) * den := by
    calc
      (2 * n - 1) * den ≤ 2 * (roundDiv num den * den) + den := Nat.le_trans h hwithin
      _ = (2 * roundDiv num den + 1) * den := by rw [Nat.add_mul, Nat.one_mul, Nat.mul_assoc]
  have hsteps := Nat.le_of_mul_le_mul_right hle hd
  by_contra hbelow
  have hodd : 2 * n - 1 = 2 * roundDiv num den + 1 := by omega
  have htie : 2 * num = 2 * (roundDiv num den * den) + den := by
    apply Nat.le_antisymm hwithin
    rwa [hodd, Nat.add_mul, Nat.one_mul, Nat.mul_assoc] at h
  have hmod : 2 * (num % den) = den := by
    have hhalf : num = den * roundDiv num den + den / 2 := by
      rw [Nat.mul_comm]
      omega
    rw [hhalf, Nat.mul_add_mod, Nat.mod_eq_of_lt (by omega)]
    omega
  have := roundDiv_even_of_tie num den hmod
  omega

variable {num den place : Nat}

theorem lastPlace_le (h : num / den < weight (53 + place)) : lastPlace num den ≤ place := by
  unfold lastPlace
  by_cases hzero : num / den = 0
  · simp [hzero]
  · have := (Nat.log2_lt hzero).mpr h
    omega

theorem le_lastPlace (h : weight (52 + place) ≤ num / den) : place ≤ lastPlace num den := by
  have hzero : num / den ≠ 0 := by
    have := weight_pos (52 + place)
    omega
  have := (Nat.le_log2 hzero).mpr h
  unfold lastPlace
  omega

/-- Wherever the last place is, the quotient has at most 53 digits from there on. -/
theorem lt_digits (hd : 0 < den) : num < weight 53 * (den * weight (lastPlace num den)) := by
  have hquotient : num / den < weight (53 + lastPlace num den) := by
    unfold lastPlace
    by_cases hzero : num / den = 0
    · rw [hzero]
      exact weight_pos _
    · exact (Nat.log2_lt hzero).mp (by omega)
  have hnum := (Nat.div_lt_iff_lt_mul hd).mp hquotient
  rwa [weight_add, Nat.mul_assoc, Nat.mul_comm (weight _) den] at hnum

/-- Beyond the first place, it has no fewer than 53 digits. -/
theorem digits_le (hd : 0 < den) (hplace : 0 < lastPlace num den) :
    weight 52 * (den * weight (lastPlace num den)) ≤ num := by
  have hzero : num / den ≠ 0 := by
    intro hzero
    simp [lastPlace, hzero] at hplace
  have hquotient : weight (52 + lastPlace num den) ≤ num / den := by
    apply (Nat.le_log2 hzero).mp
    unfold lastPlace at hplace ⊢
    omega
  have hnum := (Nat.le_div_iff_mul_le hd).mp hquotient
  rwa [weight_add, Nat.mul_assoc, Nat.mul_comm (weight _) den] at hnum

theorem roundSignificant_lt (hd : 0 < den)
    (h : 2 * num < (2 * weight 53 - 1) * (den * weight place)) :
    roundSignificant num den < weight 53 * weight place := by
  have hone : 0 < weight 53 := weight_pos 53
  have hquotient : num / den < weight (53 + place) := by
    rw [Nat.div_lt_iff_lt_mul hd, weight_add, Nat.mul_assoc, Nat.mul_comm (weight place)]
    rw [Nat.sub_mul, Nat.mul_assoc] at h
    omega
  have hdigits : 0 < den * weight (lastPlace num den) := Nat.mul_pos hd (weight_pos _)
  rcases Nat.eq_or_lt_of_le (lastPlace_le hquotient) with hplace | hplace
  · have hround : roundDiv num (den * weight (lastPlace num den)) ≤ weight 53 - 1 := by
      apply roundDiv_le hdigits
      rw [hplace]
      have hsame : 2 * (weight 53 - 1) + 1 = 2 * weight 53 - 1 := by omega
      rwa [hsame]
    rw [roundSignificant, hplace] at *
    exact Nat.mul_lt_mul_of_pos_right (by omega) (weight_pos place)
  · have hround : roundDiv num (den * weight (lastPlace num den)) ≤ weight 53 := by
      apply roundDiv_le hdigits
      have hless : num < weight 53 * (den * weight (lastPlace num den)) := lt_digits hd
      rw [Nat.add_mul, Nat.mul_assoc]
      omega
    calc
      roundSignificant num den ≤ weight 53 * weight (lastPlace num den) :=
        Nat.mul_le_mul_right _ hround
      _ < weight 53 * weight place :=
        Nat.mul_lt_mul_of_pos_left (Nat.pow_lt_pow_right (by omega) hplace) hone

theorem le_roundSignificant (hd : 0 < den)
    (h : (2 * weight 53 - 1) * (den * weight place) ≤ 2 * num) :
    weight 53 * weight place ≤ roundSignificant num den := by
  have hfifty : weight 53 = 2 * weight 52 := weight_add 1 52
  have hone : 0 < weight 52 := weight_pos 52
  have hquotient : weight (52 + place) ≤ num / den := by
    rw [Nat.le_div_iff_mul_le hd, weight_add, Nat.mul_assoc, Nat.mul_comm (weight place)]
    have hless : 2 * weight 52 * (den * weight place) ≤ 2 * num :=
      Nat.le_trans (Nat.mul_le_mul_right _ (by omega)) h
    rw [Nat.mul_assoc] at hless
    omega
  have hdigits : 0 < den * weight (lastPlace num den) := Nat.mul_pos hd (weight_pos _)
  rcases Nat.eq_or_lt_of_le (le_lastPlace hquotient) with hplace | hplace
  · have hround : weight 53 ≤ roundDiv num (den * weight (lastPlace num den)) := by
      apply le_roundDiv hdigits (by omega)
      rwa [← hplace]
    rw [roundSignificant, ← hplace] at *
    exact Nat.mul_le_mul_right _ hround
  · have hround : weight 52 ≤ roundDiv num (den * weight (lastPlace num den)) := by
      apply le_roundDiv hdigits (by decide)
      have hmore : weight 52 * (den * weight (lastPlace num den)) ≤ num :=
        digits_le hd (by omega)
      rw [Nat.sub_mul, Nat.mul_assoc]
      omega
    have hweight : 2 * weight place ≤ weight (lastPlace num den) := by
      calc
        2 * weight place = weight (1 + place) := (weight_add 1 place).symm
        _ ≤ weight (lastPlace num den) := weight_le (by omega)
    calc
      weight 53 * weight place = weight 52 * (2 * weight place) := by
        rw [hfifty, Nat.mul_comm 2, Nat.mul_assoc]
      _ ≤ weight 52 * weight (lastPlace num den) := Nat.mul_le_mul_left _ hweight
      _ ≤ roundSignificant num den := Nat.mul_le_mul_right _ hround

theorem roundSignificant_lt_iff (hd : 0 < den) :
    roundSignificant num den < weight 53 * weight place ↔
      2 * num < (2 * weight 53 - 1) * (den * weight place) := by
  constructor
  · intro h
    by_contra hlarge
    have := le_roundSignificant hd (Nat.le_of_not_lt hlarge)
    omega
  · exact roundSignificant_lt hd

namespace Binary64

def overflowThreshold : Nat := weight 1024 - weight 970

theorem weight_succ (place : Nat) : weight (1 + place) = 2 * weight place := weight_add 1 place

theorem overflowThreshold_eq : overflowThreshold = (2 * weight 53 - 1) * weight 970 := by
  have htop : weight 1024 = 2 * weight 53 * weight 970 := by
    rw [← weight_succ, ← weight_add]
  rw [overflowThreshold, htop, Nat.sub_mul, Nat.one_mul]

theorem ofUnits_of_lt (negative : Bool) (h : roundSignificant num den < unitLimit) :
    ofUnits negative num den = finite negative (roundSignificant num den) := by
  rw [ofUnits]
  exact if_pos h

theorem ofUnits_of_le (negative : Bool) (h : unitLimit ≤ roundSignificant num den) :
    ofUnits negative num den = infinite negative := by
  rw [ofUnits]
  exact if_neg (Nat.not_lt_of_le h)

theorem roundSignificant_lt_unitLimit_iff (n : Nat) (hd : 0 < den) :
    roundSignificant (n * scale) den < unitLimit ↔ n < overflowThreshold * den := by
  have hlimit : unitLimit = weight 53 * weight 2045 := weight_add 53 2045
  have hunits : weight 2045 = 2 * weight 970 * scale := by
    rw [← weight_succ, scale, ← weight_add]
  have hfactor : ∀ a b c d : Nat, a * (d * (2 * b * c)) = 2 * (a * b * d * c) := by
    intro a b c d
    ac_rfl
  rw [hlimit, roundSignificant_lt_iff hd, hunits, overflowThreshold_eq, hfactor,
    Nat.mul_lt_mul_left (by omega), Nat.mul_lt_mul_right scale_pos]

theorem ratio_of_lt {num den : Int} (hd : den ≠ 0)
    (h : num.natAbs < overflowThreshold * den.natAbs) : ratio num den = .ok (ofRatio num den) := by
  have hround := (roundSignificant_lt_unitLimit_iff _ (Int.natAbs_pos.mpr hd)).mpr h
  rw [ratio, if_neg hd, ofRatio, ofUnits_of_lt _ hround]
  rfl

theorem ratio_of_le {num den : Int} (hd : den ≠ 0)
    (h : overflowThreshold * den.natAbs ≤ num.natAbs) :
    ratio num den = .error .quotientTooLarge := by
  have hround : unitLimit ≤ roundSignificant (num.natAbs * scale) den.natAbs := by
    apply Nat.le_of_not_lt
    rw [roundSignificant_lt_unitLimit_iff _ (Int.natAbs_pos.mpr hd)]
    exact Nat.not_lt_of_le h
  rw [ratio, if_neg hd, ofRatio, ofUnits_of_le _ hround]
  rfl

end Binary64

end LoginReport
