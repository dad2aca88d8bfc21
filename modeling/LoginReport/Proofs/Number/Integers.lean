import LoginReport.Proofs.Number.Bounds

set_option autoImplicit false

/-!
# Differences of integers

A difference of integers may be too long for the digits of a number, and is rounded then. It is far
greater than any limit that itself fits half the digits, so rounding never takes it across such a
limit.
-/

namespace LoginReport.Binary64

/-- The number is the integer, of either sign when it is zero. -/
def IsInteger (x : Binary64) (n : Int) : Prop :=
  ∃ negative units, x = finite negative units ∧ signedUnits negative units = n * scale

variable {x y : Binary64} {m n limit : Int}

theorem scale_pos_int : (0 : Int) < scale := Int.natCast_pos.mpr scale_pos

theorem isInteger_ofInt (h : n.natAbs < weight 53) : (ofInt n).IsInteger n := by
  have hexact := ofUnits_whole (n < 0) n.natAbs 1 h (by omega)
  rw [Nat.mul_one] at hexact
  refine ⟨_, _, hexact, ?_⟩
  unfold signedUnits
  rw [Int.natCast_mul]
  by_cases hneg : n < 0
  · rw [if_pos (by simpa using hneg), ← Int.neg_mul, Int.ofNat_natAbs_of_nonpos (by omega),
      Int.neg_neg]
  · rw [if_neg (by simpa using hneg), Int.natAbs_of_nonneg (by omega)]

theorem IsInteger.floorUnits {negative : Bool} {units : Nat}
    (h : signedUnits negative units = n * scale) : floorUnits negative units = n := by
  rw [Binary64.floorUnits, h, Int.mul_ediv_cancel _ (Int.ne_of_gt scale_pos_int)]

/-- The difference is the integers' difference, rounded. -/
theorem IsInteger.sub (hx : x.IsInteger m) (hy : y.IsInteger n) :
    ∃ negativeZero, y.sub x = ofSignedUnits ((n - m) * scale) negativeZero := by
  obtain ⟨s, a, rfl, ha⟩ := hx
  obtain ⟨t, b, rfl, hb⟩ := hy
  have hneg : signedUnits (!s) a = -signedUnits s a := by
    cases s <;> simp [signedUnits]
  refine ⟨t && !s, ?_⟩
  rw [Binary64.sub, neg, add, hneg, ha, hb, ← Int.sub_eq_add_neg, ← Int.sub_mul]

theorem not_exceeds_of_negative (num den : Nat) (h : 0 ≤ limit) :
    (ofUnits true num den).exceeds limit = false := by
  have hlimit : 0 ≤ limit * scale := Int.mul_nonneg h (Int.le_of_lt scale_pos_int)
  unfold ofUnits
  dsimp only
  split
  · simp only [exceeds, signedUnits, if_true, decide_eq_false_iff_not]
    omega
  · rfl

theorem exceeds_whole_iff (k : Nat) :
    (finite false (k * scale)).exceeds limit = true ↔ limit < k := by
  simp only [exceeds, signedUnits, Bool.false_eq_true, if_false, decide_eq_true_eq,
    Int.natCast_mul]
  exact Int.mul_lt_mul_right scale_pos_int

/-- Rounding leaves at least half of an integer, which is still above the limit. -/
theorem exceeds_of_large {k : Nat} (hk : weight 53 ≤ k) (h : limit < weight 52) :
    (ofUnits false (k * scale) 1).exceeds limit = true := by
  have hpos := scale_pos
  have hdouble : weight 53 = 2 * weight 52 := weight_add 1 52
  have hone : 1 ≤ k * scale := Nat.mul_pos (by have := weight_pos 53; omega) hpos
  have hround := le_roundSignificant_mul (by omega : 0 < 1) hone
  rw [Nat.mul_one] at hround
  unfold ofUnits
  dsimp only
  split
  · simp only [exceeds, signedUnits, Bool.false_eq_true, if_false, decide_eq_true_eq]
    have hhalf : (2 * limit) * scale < (k : Int) * scale :=
      (Int.mul_lt_mul_right scale_pos_int).mpr (by omega)
    rw [Int.mul_assoc, ← Int.natCast_mul] at hhalf
    omega
  · rfl

/-- Whether integers are farther apart than a limit is told by their rounded difference. -/
theorem IsInteger.exceeds_sub_iff (hx : x.IsInteger m) (hy : y.IsInteger n) (hlow : 0 ≤ limit)
    (hhigh : limit < weight 52) : (y.sub x).exceeds limit = true ↔ limit < n - m := by
  obtain ⟨negativeZero, hsub⟩ := hx.sub hy
  rw [hsub]
  generalize n - m = difference
  unfold ofSignedUnits
  have hzero : difference * scale = 0 ↔ difference = 0 := by
    have := scale_pos
    rw [Int.mul_eq_zero]
    omega
  have hnegative : difference * scale < 0 ↔ difference < 0 := by
    have h := Int.mul_lt_mul_right (b := difference) (c := 0) scale_pos_int
    rwa [Int.zero_mul] at h
  rcases Int.lt_trichotomy difference 0 with hdifference | rfl | hdifference
  · rw [if_neg (by omega), decide_eq_true (hnegative.mpr hdifference),
      not_exceeds_of_negative _ _ hlow]
    simp only [Bool.false_eq_true, false_iff]
    omega
  · have hwhole : (finite false (0 * scale)).exceeds limit = true ↔ limit < 0 :=
      exceeds_whole_iff 0
    rw [Nat.zero_mul] at hwhole
    simp only [Int.zero_mul, if_true]
    cases negativeZero with
    | false => exact hwhole
    | true => exact hwhole
  · obtain ⟨k, rfl⟩ := Int.eq_ofNat_of_zero_le (Int.le_of_lt hdifference)
    rw [if_neg (by omega), decide_eq_false (by omega), ← Int.natCast_mul, Int.natAbs_natCast]
    by_cases hfits : k < weight 53
    · have hexact := ofUnits_whole false k 1 hfits (by omega)
      rw [Nat.mul_one] at hexact
      rw [hexact]
      exact exceeds_whole_iff k
    · have hdouble : weight 53 = 2 * weight 52 := weight_add 1 52
      rw [exceeds_of_large (by omega) hhigh]
      simp only [true_iff]
      omega

end LoginReport.Binary64
