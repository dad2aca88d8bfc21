import LoginReport.Interval
import LoginReport.Proofs.Number.Exact
import LoginReport.Proofs.Text.Decimal
import Mathlib.Tactic.ByContra
import Mathlib.Tactic.SplitIfs

set_option autoImplicit false

/-!
# The width of intervals

An interval of less than a hundred days fills exactly seven columns, and every longer one takes
more. At a hundred ticks a second the hundredths of a number of ticks are its last two digits, so
ticks have an interval of seven columns as well.
-/

namespace LoginReport.Interval

/-- A hundred days, the first interval that does not fit its columns. -/
def overflow : Int := 100 * day

theorem length_clock (major minor : Int) (mark : Char) (h0 : 0 ≤ major) (h : major < 100)
    (m0 : 0 ≤ minor) (m : minor < 100) : (clock major minor mark).length = 7 := by
  have hmajor := Text.length_blankTwo major h0 h
  have hminor := Text.length_zeroTwo minor m0 m
  simp [clock, hmajor, hminor]

theorem length_text (seconds centiseconds : Int) (oldStyle : Bool) (h : seconds < overflow)
    (c0 : 0 ≤ centiseconds) (c : centiseconds < 100) :
    (text seconds centiseconds oldStyle).length = 7 := by
  unfold overflow at h
  unfold text
  unfold day at *
  unfold hour minute
  split_ifs
  · rfl
  · have hdays := Text.length_blankTwo (seconds / 86400) (by omega) (by omega)
    simp [hdays]
  · exact length_clock _ _ _ (by omega) (by omega) (by omega) (by omega)
  · exact length_clock _ _ _ (by omega) (by omega) (by omega) (by omega)
  · exact length_clock _ _ _ (by omega) (by omega) (by omega) (by omega)
  · exact length_clock _ _ _ (by omega) (by omega) (by omega) (by omega)
  · rfl
  · have hseconds := Text.length_blankTwo seconds (by omega) (by omega)
    have hhundredths := Text.length_zeroTwo centiseconds c0 c
    simp [hseconds, hhundredths]

/-- The number of days is never cut. -/
theorem length_text_of_overflow {seconds : Int} (h : overflow ≤ seconds) (centiseconds : Int)
    (oldStyle : Bool) : 3 ≤ (Text.ofInt (seconds / day)).length ∧
      (text seconds centiseconds oldStyle).length = 5 + (Text.ofInt (seconds / day)).length := by
  unfold overflow day at h
  have hdays : 100 ≤ seconds / day := by
    unfold day
    omega
  obtain ⟨days, hnumber⟩ := Int.eq_ofNat_of_zero_le (by omega : 0 ≤ seconds / day)
  have hdigits := not_congr (Text.length_ofNat_le_iff days 2 (by omega))
  have hlength : 3 ≤ (Text.ofInt days).length := by
    have : 2 < (Text.ofNat days).length := Nat.lt_of_not_le (hdigits.mpr (by omega))
    exact this
  have hpadded := Text.length_padLeft (Text.ofInt days) 2 ' '
  rw [← Text.blankTwo] at hpadded
  unfold text
  rw [if_neg (by omega), if_pos (by unfold day; omega), hnumber]
  refine ⟨hlength, ?_⟩
  simp only [List.length_append, List.length_cons, hpadded]
  change max (Text.ofInt days).length 2 + 1 + 4 = _
  omega

/-- An interval fills its seven columns exactly up to a hundred days. Beyond, it takes a column more
for every further digit of the days. -/
theorem fills_columns_iff (seconds centiseconds : Int) (oldStyle : Bool) (c0 : 0 ≤ centiseconds)
    (c : centiseconds < 100) :
    ((text seconds centiseconds oldStyle).length = 7 ↔ seconds < overflow) ∧
      (overflow ≤ seconds →
        3 ≤ (Text.ofInt (seconds / day)).length ∧
          (text seconds centiseconds oldStyle).length =
            5 + (Text.ofInt (seconds / day)).length) := by
  refine ⟨⟨?_, fun h => length_text seconds centiseconds oldStyle h c0 c⟩,
    fun h => length_text_of_overflow h centiseconds oldStyle⟩
  intro hseven
  by_contra hlong
  obtain ⟨hdigits, hlength⟩ :=
    length_text_of_overflow (Int.not_lt.mp hlong) centiseconds oldStyle
  omega

theorem fills_columns_iff_last_second :
    (0 : Int) ≤ 99 ∧ (99 : Int) < 100 ∧ (text 8639999 99 false).length = 7 ∧
      (text 8640000 99 false).length ≠ 7 ∧ (text 86400000 99 true).length = 9 := by
  have hbound := fills_columns_iff 8640000 99 false (by decide) (by decide)
  have hthousand := (fills_columns_iff 86400000 99 true (by decide) (by decide)).2 (by decide)
  refine ⟨by decide, by decide, ?_, ?_, ?_⟩
  · exact (fills_columns_iff 8639999 99 false (by decide) (by decide)).1.mpr (by decide)
  · exact fun h => absurd (hbound.1.mp h) (by decide)
  · rw [hthousand.2]
    rfl

/-- A hundred days take a column more. -/
theorem hundred_days_too_long :
    text 8640000 0 false = " 100days".toList ∧ text 8640000 0 true = " 100days".toList ∧
      ¬∀ (seconds centiseconds : Int) (oldStyle : Bool), 0 ≤ centiseconds → centiseconds < 100 →
        (text seconds centiseconds oldStyle).length = 7 := by
  have hshown : text 8640000 0 false = " 100days".toList := by decide
  refine ⟨hshown, by decide, ?_⟩
  intro hall
  have hseven := hall 8640000 0 false (by decide) (by decide)
  rw [hshown] at hseven
  exact absurd hseven (by decide)

theorem fmod_hundred (n : Int) : 0 ≤ n.fmod 100 ∧ n.fmod 100 < 100 :=
  ⟨Int.fmod_nonneg_of_pos n (by omega), Int.fmod_lt_of_pos n (by omega)⟩

theorem centiseconds_eq {ticks hertz : Int} {rate rest : Binary64}
    (hrate : Binary64.ofInt? hertz = .ok rate)
    (hrest : Binary64.ofInt? (ticks.fmod hertz) = .ok rest) :
    centiseconds ticks hertz = (rest.mul ((Binary64.ofInt 100).div rate)).trunc := by
  rw [centiseconds, hrate, hrest]
  rfl

/-- A hundred ticks a second make one hundredth a tick, and the product with one is exact. -/
theorem centiseconds_hundred (ticks : Int) : centiseconds ticks 100 = .ok (ticks.fmod 100) := by
  obtain ⟨h0, h⟩ := fmod_hundred ticks
  obtain ⟨rest, hrest⟩ := Int.eq_ofNat_of_zero_le h0
  have hbound : 128 ≤ weight 53 := weight_le (by omega : 7 ≤ 53)
  have hrate : Binary64.ofInt? 100 = _ := Binary64.ofInt?_whole 100 (by omega)
  have hhundred : Binary64.ofInt 100 = _ := Binary64.ofInt_whole 100 (by omega)
  have hfew := Binary64.ofInt?_whole rest (by omega)
  rw [← hrest] at hfew
  rw [centiseconds_eq hrate hfew, hhundred, Binary64.div_self_whole _ _ (by omega),
    Binary64.mul_one_whole _ _ (by omega), Binary64.trunc_whole, hrest]
  rfl

theorem ofTicks_hundred (ticks : Int) (oldStyle : Bool) (h : ticks < 100 * overflow) :
    ∃ s, ofTicks ticks 100 oldStyle = .ok s ∧ s.length = 7 := by
  obtain ⟨c0, c⟩ := fmod_hundred ticks
  refine ⟨text (ticks.fdiv 100) (ticks.fmod 100) oldStyle, ?_, ?_⟩
  · rw [ofTicks, if_neg (by omega), centiseconds_hundred]
    rfl
  · refine length_text _ _ _ ?_ c0 c
    rw [Int.fdiv_eq_ediv_of_nonneg _ (by omega)]
    omega

end LoginReport.Interval
