import LoginReport.Proofs.Machine
import LoginReport.Proofs.Table.Columns
import Mathlib.Control.Monad.Basic

set_option autoImplicit false

/-!
# Rows fit the terminal

The budget that the settings keep for the command is what the fixed columns leave, so a row that
fits its columns is shorter than the terminal is wide.
-/

namespace LoginReport.Table

variable {session : LoginSession} {shown : Activity} {settings : Settings}

/-- With the process numbers before it, where they leave room for it. -/
theorem length_command_le (hwidth : 0 ≤ settings.commandWidth)
    (hpids : settings.pids = true →
      ((pids session shown settings).length : Int) ≤ settings.commandWidth) :
    ((command shown settings (pids session shown settings)).length : Int) ≤
      settings.commandWidth + 1 := by
  unfold command
  rw [List.length_append, List.length_cons]
  by_cases hshown : settings.pids = true
  · have hfit := hpids hshown
    have hleft : commandWidth settings (pids session shown settings) =
        settings.commandWidth - (pids session shown settings).length := by
      rw [commandWidth, hshown, if_neg (by simp), if_neg (by omega)]
    rw [hleft, Text.length_cut_of_nonneg _ _ (by omega)]
    omega
  · have hnone : pids session shown settings = [] := by rw [pids, if_neg hshown]
    have hleft : commandWidth settings [] = settings.commandWidth := by
      rw [commandWidth, if_pos (by simp [hshown])]
    rw [hnone, hleft, Text.length_cut_of_nonneg _ _ hwidth, List.length_nil]
    omega

/-- A row on a terminal that is wide enough for the fixed columns and for a command of seven. -/
theorem length_row_le (environment : Text → Option Text) (terminal width : Option Int)
    (switches : Switches) (settings : Settings) (columns : Int) (machine : Machine)
    (session : LoginSession) (shown : Activity) (now : Binary64)
    (hread : (Settings.read environment terminal width switches).result = .ok settings)
    (hcolumns : Settings.columnsFor environment terminal width = .ok columns)
    (hleast : settings.leastColumns ≤ columns) (hfits : Fits machine session shown settings now)
    (hpids : settings.pids = true →
      ((pids session shown settings).length : Int) ≤ settings.commandWidth) :
    ∃ text, row machine session shown settings 100 now = .ok text ∧
      (text.length : Int) ≤ min columns 512 - (if settings.longForm then 1 else 3) := by
  obtain ⟨hbounds, hof⟩ := Settings.ofSwitches_of_read hread hcolumns
  obtain ⟨fixed, hrow, hfixed⟩ := row_ok hbounds hfits
  have hwidth := Settings.commandWidth_eq hbounds hof hleast
  have hcommand := length_command_le (by have := hbounds.command; omega) hpids
  refine ⟨_, hrow, ?_⟩
  rw [List.length_append]
  unfold fixedWidth at hfixed
  unfold Settings.taken Settings.widest at hwidth
  split_ifs at hfixed hwidth ⊢ <;> omega

theorem length_row_on_eighty_columns : ∃ text,
    row (Machine.bare.withTerminal 5) (LoginSession.ofLeader 1000 100)
      { found := true, terminalTicks := 250, ticks := 120, pid := 101 }
      (Settings.ofSwitches { pids := true } 8 16 80) 100 .zero = .ok text ∧
      (text.length : Int) ≤ 79 := by
  have hfits : Fits (Machine.bare.withTerminal 5) (LoginSession.ofLeader 1000 100)
      { found := true, terminalTicks := 250, ticks := 120, pid := 101 }
      (Settings.ofSwitches { pids := true } 8 16 80) .zero :=
    { login := fun _ => ⟨" 00:00  ".toList, by decide +kernel⟩
      idle := fun _ => ⟨0, by decide +kernel, by decide⟩
      terminalTicks := by decide
      ticks := by decide }
  exact length_row_le (fun _ => none) none (some 80) { pids := true } _ 80 _ _ _ _ rfl rfl
    (by decide) hfits (fun _ => by decide)

end LoginReport.Table
