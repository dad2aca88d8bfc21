import LoginReport.Proofs.Interval.Width
import LoginReport.Proofs.Number.Bounds
import Mathlib.Tactic.Ring

set_option autoImplicit false

/-!
# Intervals at any rate

At every rate that is a finite number of ticks a second, any number of ticks has an interval: the
ticks that make up no whole second are fewer than the rate, so their hundredths stay far below the
greatest finite number.
-/

namespace LoginReport

open Binary64

namespace Interval

section Bounds

-- The units of one, of the rate, of the hundredths of a tick and of the rest.
variable {one rate tick rest n m : Nat}

theorem tick_le (hone : 0 < one) (hrate : one ≤ 2 * rate)
    (htick : tick * rate ≤ 2 * (100 * one * one)) : tick ≤ 400 * one := by
  apply Nat.le_of_mul_le_mul_right _ hone
  calc
    tick * one ≤ tick * (2 * rate) := Nat.mul_le_mul_left tick hrate
    _ = 2 * (tick * rate) := by ring
    _ ≤ 2 * (2 * (100 * one * one)) := Nat.mul_le_mul_left 2 htick
    _ = 400 * one * one := by ring

/-- Of fewer ticks than the rate has. -/
theorem rest_mul_tick_le (hrest : rest ≤ 2 * (m * one)) (hm : m ≤ n)
    (hrate : n * one ≤ 2 * rate) (htick : tick * rate ≤ 2 * (100 * one * one)) :
    2 * (rest * tick) ≤ 1600 * one * one := by
  have hdouble : rest ≤ 4 * rate := by
    have := Nat.mul_le_mul_right one hm
    omega
  calc
    2 * (rest * tick) ≤ 2 * (4 * rate * tick) :=
      Nat.mul_le_mul_left 2 (Nat.mul_le_mul_right tick hdouble)
    _ = 8 * (tick * rate) := by ring
    _ ≤ 8 * (2 * (100 * one * one)) := Nat.mul_le_mul_left 8 htick
    _ = 1600 * one * one := by ring

end Bounds

/-- The units of an integer's nearest number. -/
def wholeUnits (n : Nat) : Nat := roundSignificant (n * scale) 1

theorem wholeUnits_le (n : Nat) : wholeUnits n ≤ 2 * (n * scale) := by
  have h := roundSignificant_mul_le (n * scale) Nat.one_pos
  rwa [Nat.mul_one] at h

theorem le_wholeUnits {n : Nat} (hn : 0 < n) : n * scale ≤ 2 * wholeUnits n := by
  have h := le_roundSignificant_mul Nat.one_pos (Nat.mul_pos hn scale_pos)
  rwa [Nat.mul_one] at h

/-- The rate and the rest are rounded, then the hundredths of a tick, then their product. Each step
at most doubles a number, and the rate is at most halved. -/
theorem isWithin_hundredths {rest rate : Nat} (hpos : 0 < rate) (hrest : rest ≤ rate)
    (s t : Bool) :
    ((finite s (wholeUnits rest)).mul
      ((finite false (100 * scale)).div (finite t (wholeUnits rate)))).IsWithin 1600 := by
  have hrate := le_wholeUnits hpos
  have hone : scale ≤ 2 * wholeUnits rate :=
    Nat.le_trans (Nat.le_mul_of_pos_left scale hpos) hrate
  have hunits : 0 < wholeUnits rate := by
    have := scale_pos
    omega
  have htick := roundSignificant_mul_le (100 * scale * scale) hunits
  have hfar : 2048 ≤ farBelow := weight_le (by omega : 11 ≤ 1000)
  have hlimit := Nat.lt_of_le_of_lt (tick_le scale_pos hone htick)
    (mul_scale_lt_unitLimit (by omega : 400 ≤ farBelow))
  rw [div, if_pos (Nat.ne_of_gt hunits), ofUnits_of_lt _ hlimit, mul]
  exact isWithin_ofUnits _ scale_pos (by omega)
    (rest_mul_tick_le (wholeUnits_le rest) hrest hrate htick)

theorem centiseconds_ok (ticks : Int) {hertz : Int} (hpos : 0 < hertz)
    (hfinite : hertz.natAbs < overflowThreshold) : ∃ n, centiseconds ticks hertz = .ok n := by
  have hrest0 : 0 ≤ ticks.fmod hertz := Int.fmod_nonneg_of_pos ticks hpos
  have hrest : ticks.fmod hertz < hertz := Int.fmod_lt_of_pos ticks hpos
  have hwhole : 128 ≤ weight 53 := weight_le (by omega : 7 ≤ 53)
  have hhundred : ofInt 100 = _ := ofInt_whole 100 (by omega)
  rw [centiseconds_eq (ofInt?_of_lt hfinite) (ofInt?_of_lt (by omega)), hhundred]
  exact (isWithin_hundredths (by omega) (by omega) _ _).trunc

theorem ofTicks_ok (ticks : Int) {hertz : Int} (oldStyle : Bool) (hpos : 0 < hertz)
    (hfinite : hertz.natAbs < overflowThreshold) : ∃ s, ofTicks ticks hertz oldStyle = .ok s := by
  obtain ⟨n, hn⟩ := centiseconds_ok ticks hpos hfinite
  rw [ofTicks, if_neg (by omega), hn]
  exact ⟨_, rfl⟩

end Interval

end LoginReport
