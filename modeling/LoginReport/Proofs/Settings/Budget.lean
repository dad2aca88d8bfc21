import LoginReport.Proofs.Results
import LoginReport.Settings
import Mathlib.Tactic.SplitIfs

set_option autoImplicit false

/-!
# The budget of a row

The settings that are read have columns in bounds, whatever the switches and the environment are.
On a terminal that is wide enough for the other columns, the command gets exactly what they leave.
-/

namespace LoginReport.Settings

structure InBounds (settings : Settings) : Prop where
  user : lowestLength ≤ settings.userWidth ∧ settings.userWidth ≤ highestUserLength
  origin : lowestLength ≤ settings.fromWidth ∧ settings.fromWidth ≤ highestFromLength
  command : 7 ≤ settings.commandWidth ∧ settings.commandWidth ≤ widest

/-- The width that the settings are read for. -/
def columnsFor (environment : Text → Option Text) (terminal width : Option Int) :
    Except NumeralFault Int :=
  match width with
  | some width => .ok width
  | none => columns environment terminal

/-- The width from which on nothing has to be taken from the command's least seven columns. -/
def leastColumns (settings : Settings) : Int :=
  settings.userWidth + (if settings.showFrom then settings.fromWidth else 0) +
    (if settings.longForm then 48 else 28)

variable {environment : Text → Option Text} {terminal width : Option Int} {switches : Switches}
variable {settings : Settings}

theorem lengthOf_within {name : Text} {high default n : Int} (hlow : lowestLength ≤ default)
    (hhigh : default ≤ high) (h : (lengthOf environment name high default).result = .ok n) :
    lowestLength ≤ n ∧ n ≤ high := by
  unfold lengthOf at h
  cases hraw : environment name with
  | none =>
    rw [hraw] at h
    obtain rfl := Except.ok.inj h
    exact ⟨hlow, hhigh⟩
  | some raw =>
    rw [hraw] at h
    dsimp only at h
    cases hvalue : Numeral.leading raw with
    | error fault =>
      rw [hvalue] at h
      cases h
    | ok value =>
      rw [hvalue] at h
      dsimp only at h
      split at h
      · obtain rfl := Except.ok.inj h
        exact ⟨hlow, hhigh⟩
      · obtain rfl := Except.ok.inj h
        omega

theorem read_eq_ok_iff : (read environment terminal width switches).result = .ok settings ↔
    ∃ user, (lengthOf environment "PROCPS_USERLEN".toList highestUserLength 8).result = .ok user ∧
      ∃ origin, (lengthOf environment "PROCPS_FROMLEN".toList highestFromLength 16).result =
        .ok origin ∧ ∃ columns, columnsFor environment terminal width = .ok columns ∧
          ofSwitches switches user origin columns = settings := by
  unfold read
  rw [Run.result_bind_eq_ok]
  refine exists_congr fun user => and_congr_right fun _ => ?_
  rw [Run.result_bind_eq_ok]
  refine exists_congr fun origin => and_congr_right fun _ => ?_
  cases width with
  | none =>
    dsimp only
    rw [Run.result_bind_eq_ok]
    refine exists_congr fun columns => and_congr ?_ (Run.result_pure_eq_ok _ _)
    exact mapError_eq_ok _ _ _
  | some width =>
    dsimp only
    rw [Run.result_bind_eq_ok]
    refine exists_congr fun columns => and_congr ?_ (Run.result_pure_eq_ok _ _)
    rw [columnsFor, Except.ok.injEq]
    exact Run.result_pure_eq_ok width columns

theorem inBounds_ofSwitches {user origin : Int} (columns : Int)
    (huser : lowestLength ≤ user ∧ user ≤ highestUserLength)
    (horigin : lowestLength ≤ origin ∧ origin ≤ highestFromLength) :
    (ofSwitches switches user origin columns).InBounds where
  user := huser
  origin := horigin
  command := clamp_within _

theorem ofSwitches_of_read (h : (read environment terminal width switches).result = .ok settings)
    {columns : Int} (hcolumns : columnsFor environment terminal width = .ok columns) :
    settings.InBounds ∧
      ofSwitches switches settings.userWidth settings.fromWidth columns = settings := by
  obtain ⟨user, huser, origin, horigin, read, hread, rfl⟩ := read_eq_ok_iff.mp h
  obtain rfl := Except.ok.inj (hread.symm.trans hcolumns)
  refine ⟨inBounds_ofSwitches read ?_ ?_, rfl⟩
  · exact lengthOf_within (by decide) (by decide) huser
  · exact lengthOf_within (by decide) (by decide) horigin

theorem inBounds_of_read (h : (read environment terminal width switches).result = .ok settings) :
    settings.InBounds := by
  obtain ⟨-, -, -, -, columns, hcolumns, -⟩ := read_eq_ok_iff.mp h
  exact (ofSwitches_of_read h hcolumns).1

/-- The two clamps cut the width and add nothing. -/
theorem commandWidth_eq (hbounds : settings.InBounds) {columns : Int}
    (h : ofSwitches switches settings.userWidth settings.fromWidth columns = settings)
    (hleast : settings.leastColumns ≤ columns) :
    settings.commandWidth = min columns widest -
      taken settings.userWidth settings.fromWidth settings.showFrom settings.longForm := by
  have hcommand : settings.commandWidth = clamp (clamp columns -
      taken settings.userWidth settings.fromWidth settings.showFrom settings.longForm) := by
    rw [← h]
    rfl
  obtain ⟨huser, horigin, -⟩ := hbounds
  unfold lowestLength highestUserLength at huser
  unfold lowestLength highestFromLength at horigin
  unfold leastColumns at hleast
  rw [hcommand]
  unfold clamp taken widest
  split_ifs at hleast ⊢ <;> omega

end LoginReport.Settings
