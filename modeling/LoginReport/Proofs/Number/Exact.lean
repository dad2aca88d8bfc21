import LoginReport.Number.Binary64

set_option autoImplicit false

/-!
# Exact results

Rounding changes nothing about a number whose significant digits fit. Whole numbers of at most 53
binary digits fit, so arithmetic on them that ends with such a number is exact.
-/

namespace LoginReport

theorem weight_pos (place : Nat) : 0 < weight place := Nat.pow_pos (by omega)

theorem weight_add (a b : Nat) : weight (a + b) = weight a * weight b := Nat.pow_add 2 a b

theorem weight_le {a b : Nat} (h : a ≤ b) : weight a ≤ weight b :=
  Nat.pow_le_pow_right (by omega) h

theorem weight_dvd {a b : Nat} (h : a ≤ b) : weight a ∣ weight b := Nat.pow_dvd_pow 2 h

theorem roundSignificant_of_dvd (n den : Nat) (hd : 0 < den) (h : weight (n.log2 - 52) ∣ n) :
    roundSignificant (n * den) den = n := by
  have hp : lastPlace (n * den) den = n.log2 - 52 := by
    rw [lastPlace, Nat.mul_div_cancel n hd]
  obtain ⟨q, hq⟩ := h
  have hn : n * den = q * (den * weight (n.log2 - 52)) := by
    calc
      n * den = weight (n.log2 - 52) * q * den := congrArg (· * den) hq
      _ = q * (den * weight (n.log2 - 52)) := by ac_rfl
  rw [roundSignificant, hp, hn, roundDiv_mul_self _ _ (Nat.mul_pos hd (weight_pos _)),
    Nat.mul_comm, ← hq]

theorem weight_dvd_shifted (m place : Nat) (h : m < weight 53) :
    weight ((m * weight place).log2 - 52) ∣ m * weight place := by
  by_cases hm : m * weight place = 0
  · rw [hm]
    exact Nat.dvd_zero _
  · have hlt : m * weight place < weight (53 + place) := by
      rw [weight_add]
      exact Nat.mul_lt_mul_of_pos_right h (weight_pos place)
    have hlog := (Nat.log2_lt hm).mpr hlt
    exact Nat.dvd_trans (weight_dvd (by omega)) (Nat.dvd_mul_left _ m)

namespace Binary64

theorem scale_pos : 0 < scale := weight_pos 1074

theorem ofUnits_whole (negative : Bool) (m den : Nat) (h : m < weight 53) (hd : 0 < den) :
    ofUnits negative (m * scale * den) den = finite negative (m * scale) := by
  have hr : roundSignificant (m * scale * den) den = m * scale :=
    roundSignificant_of_dvd _ _ hd (weight_dvd_shifted m 1074 h)
  have hlimit : m * scale < unitLimit := by
    calc
      m * scale < weight 53 * scale := Nat.mul_lt_mul_of_pos_right h scale_pos
      _ = weight (53 + 1074) := by rw [weight_add, scale]
      _ ≤ unitLimit := by
        rw [unitLimit]
        exact weight_le (by omega)
  rw [ofUnits, hr, if_pos hlimit]

theorem ofInt_whole (m : Nat) (h : m < weight 53) : ofInt m = finite false (m * scale) := by
  have hw := ofUnits_whole false m 1 h (by omega)
  rw [Nat.mul_one] at hw
  have hneg : decide ((m : Int) < 0) = false := by simp
  rw [ofInt, hneg, Int.natAbs_natCast, hw]

theorem ofInt?_whole (m : Nat) (h : m < weight 53) :
    ofInt? m = .ok (finite false (m * scale)) := by
  rw [ofInt?, ofInt_whole m h]
  rfl

theorem div_self_whole (negative : Bool) (m : Nat) (h : 0 < m) :
    (finite negative (m * scale)).div (finite negative (m * scale)) = finite false scale := by
  have hpos := Nat.mul_pos h scale_pos
  have hn : m * scale * scale = 1 * scale * (m * scale) := by
    rw [Nat.one_mul, Nat.mul_comm]
  have hone : 1 < weight 53 := Nat.one_lt_two_pow (by omega)
  rw [div, if_pos (Nat.ne_of_gt hpos), hn, ofUnits_whole _ _ _ hone hpos, bne_self_eq_false,
    Nat.one_mul]

theorem mul_one_whole (negative : Bool) (m : Nat) (h : m < weight 53) :
    (finite negative (m * scale)).mul (finite false scale) = finite negative (m * scale) := by
  rw [mul, ofUnits_whole _ _ _ h scale_pos, Bool.bne_false]

theorem trunc_whole (negative : Bool) (m : Nat) :
    (finite negative (m * scale)).trunc = .ok (signedUnits negative m) := by
  rw [trunc, truncUnits, Nat.mul_div_cancel m scale_pos]

end Binary64

end LoginReport
