import LoginReport.Proofs.Time.Form
import LoginReport.Machine
import Mathlib.Tactic.Zify

set_option autoImplicit false

/-!
# Times that can be told

A clock counts seconds in a signed word of 64 bits, and shows an instant whose year fits a word of
32. The distance of two counts is a finite number, and between two instants that can be shown there
is always a login time to show.
-/

namespace LoginReport

namespace Binary64

/-- A number of seconds that a clock can count. -/
def IsSeconds (x : Binary64) : Prop := ∃ n, LocalTime.wholeSeconds x = .ok n

/-- The greatest distance from the epoch that a clock can count. -/
def clockLimit : Nat := weight 63

variable {x y : Binary64}

theorem le_of_floorUnits {negative : Bool} {units limit : Nat}
    (hlow : -(limit : Int) ≤ floorUnits negative units)
    (hhigh : floorUnits negative units < limit) : units ≤ limit * scale := by
  have hscale : (0 : Int) < scale := Int.natCast_pos.mpr scale_pos
  unfold floorUnits signedUnits at hlow hhigh
  zify
  cases negative with
  | false =>
    have habove := (Int.ediv_lt_iff_lt_mul hscale).mp hhigh
    exact Int.le_of_lt habove
  | true =>
    have hbelow := (Int.le_ediv_iff_mul_le hscale).mp hlow
    rw [Int.neg_mul] at hbelow
    exact Int.neg_le_neg_iff.mp hbelow

theorem IsSeconds.isWithin (h : x.IsSeconds) : x.IsWithin clockLimit := by
  obtain ⟨n, hn⟩ := h
  unfold LocalTime.wholeSeconds at hn
  split at hn
  · cases hn
  · cases hn
  · rename_i negative units
    dsimp only at hn
    split at hn
    · rename_i hcounted
      exact ⟨negative, units, rfl, le_of_floorUnits hcounted.1 hcounted.2⟩
    · cases hn

theorem clockLimit_far : 16 * clockLimit ≤ farBelow := by
  have hsixteen : 16 * clockLimit = weight (4 + 63) := (weight_add 4 63).symm
  rw [hsixteen]
  exact weight_le (by omega)

theorem IsSeconds.sub (hx : x.IsSeconds) (hy : y.IsSeconds) :
    (x.sub y).IsWithin (4 * clockLimit) := by
  have hfar := clockLimit_far
  have hdouble : 4 * clockLimit = 2 * (clockLimit + clockLimit) := by omega
  rw [hdouble]
  exact hx.isWithin.sub hy.isWithin (by omega)

end Binary64

/-- An instant that the machine's clock can show, with the names of its month and weekday. -/
def Machine.IsTime (machine : Machine) (instant : Binary64) : Prop :=
  ∃ time, machine.localTime instant = .ok time ∧ time.date.year < 0x80000000

variable {machine : Machine} {login now : Binary64}

theorem Machine.IsTime.isSeconds (h : machine.IsTime now) : now.IsSeconds := by
  obtain ⟨time, htime, -⟩ := h
  obtain ⟨seconds, hseconds, -⟩ := (bind_eq_ok _ _ _).mp htime
  exact ⟨seconds, hseconds⟩

theorem LoginTime.column_ok (hlogin : machine.IsTime login) (hnow : machine.IsTime now) :
    ∃ s, column machine.zone login now = .ok s := by
  obtain ⟨time, htime, hyear⟩ := hlogin
  obtain ⟨today, htoday, -⟩ := hnow
  exact ⟨_, column_eq_ok.mpr ⟨time, today, htime, htoday, Or.inr hyear, rfl⟩⟩

end LoginReport
