import LoginReport.Proofs.Host.Width
import LoginReport.Proofs.Interval.Width
import LoginReport.Proofs.Settings.Budget
import LoginReport.Proofs.Time.Width
import LoginReport.Table

set_option autoImplicit false

/-!
# The fixed columns of a row

With settings in bounds no column of a row is refused for its width. Where the login time can be
told and the intervals stay below a hundred days, every column before the command has its width, and
the row is these columns and the command.
-/

namespace LoginReport.Table

/-- What a row shows beside its texts fits the columns made for it. -/
structure Fits (machine : Machine) (session : LoginSession) (shown : Activity)
    (settings : Settings) (now : Binary64) : Prop where
  login : settings.longForm = true →
    ∃ text, LoginTime.column machine.zone session.startTime now = .ok text
  idle : session.display = false → ∃ seconds,
    Terminal.idleSeconds machine session.tty now = .ok seconds ∧ seconds < Interval.overflow
  terminalTicks : shown.terminalTicks < 100 * Interval.overflow
  ticks : shown.ticks < 100 * Interval.overflow

/-- The width of the columns before the command: user, terminal, origin, login time, idle time and
two processor times. -/
def fixedWidth (settings : Settings) : Int :=
  settings.userWidth + 1 + 9 + (if settings.showFrom then settings.fromWidth else 0) +
    (if settings.longForm then 8 + 7 + 14 else 7)

variable {machine : Machine} {session : LoginSession} {shown : Activity} {settings : Settings}
variable {now : Binary64}

theorem column_ok (s : Text) (width : Int) (hlow : 0 ≤ width)
    (hhigh : width ≤ Settings.highestFromLength) :
    column s width = .ok (s.padRight width ' ') := by
  have hword : width ≤ Column.greatestWord := by
    unfold Settings.highestFromLength at hhigh
    unfold Column.greatestWord
    omega
  exact (mapError_eq_ok _ _ _).mpr (Column.unsigned_eq_ok_iff.mpr ⟨hlow, hword, rfl⟩)

theorem user_ok (session : LoginSession) (hbounds : settings.InBounds) :
    ∃ s, user session settings = .ok s ∧ (s.length : Int) = settings.userWidth + 1 := by
  obtain ⟨hlow, hhigh⟩ := hbounds.user
  unfold Settings.lowestLength at hlow
  unfold Settings.highestUserLength at hhigh
  have hcut := Text.length_cut_of_nonneg (session.username.take userFieldSize) settings.userWidth
    (by omega)
  refine ⟨_, column_ok _ _ (by omega) (by unfold Settings.highestFromLength; omega), ?_⟩
  rw [Text.length_padRight, hcut]
  omega

theorem length_tty (session : LoginSession) : (tty session).length = 9 := by
  unfold tty
  rw [Text.length_padRight, List.length_take]
  omega

theorem origin_ok (session : LoginSession) (hbounds : settings.InBounds) :
    ∃ s, origin session settings = .ok s ∧
      (s.length : Int) = if settings.showFrom then settings.fromWidth else 0 := by
  obtain ⟨hlow, hhigh⟩ := hbounds.origin
  unfold Settings.lowestLength at hlow
  unfold Settings.highestFromLength at hhigh
  unfold origin
  by_cases hshown : settings.showFrom = true
  · have hword : settings.fromWidth ≤ Column.greatestWord := by
      unfold Column.greatestWord
      omega
    obtain ⟨s, hs, hlength⟩ := Origin.column_ok session settings.addresses (by omega) hword
    rw [if_pos hshown, if_pos hshown, hs]
    exact ⟨s, rfl, hlength⟩
  · rw [if_neg hshown, if_neg hshown]
    exact ⟨[], rfl, rfl⟩

theorem login_ok (hfits : Fits machine session shown settings now) :
    ∃ s, login machine session settings now = .ok s ∧
      (s.length : Int) = if settings.longForm then 8 else 0 := by
  unfold login
  by_cases hlong : settings.longForm = true
  · obtain ⟨s, hs⟩ := hfits.login hlong
    rw [if_pos hlong, if_pos hlong, hs]
    refine ⟨s, rfl, ?_⟩
    rw [LoginTime.length_column hs]
    rfl
  · rw [if_neg hlong, if_neg hlong]
    exact ⟨[], rfl, rfl⟩

theorem idle_ok (hfits : Fits machine session shown settings now) :
    ∃ s, idle machine session settings now = .ok s ∧ s.length = 7 := by
  unfold idle
  cases hdisplay : session.display with
  | true => exact ⟨displayIdle, rfl, rfl⟩
  | false =>
    obtain ⟨seconds, hseconds, hbound⟩ := hfits.idle hdisplay
    rw [hseconds]
    refine ⟨Interval.text seconds 0 settings.oldStyle, rfl, ?_⟩
    exact Interval.length_text _ _ _ hbound (by omega) (by omega)

theorem ticks_ok (settings : Settings) (n : Int) (h : n < 100 * Interval.overflow) :
    ∃ s, ticks n 100 settings = .ok s ∧ s.length = 7 := by
  obtain ⟨s, hs, hlength⟩ := Interval.ofTicks_hundred n settings.oldStyle h
  unfold ticks
  rw [hs]
  exact ⟨s, rfl, hlength⟩

theorem times_ok (hfits : Fits machine session shown settings now) :
    ∃ s, times shown settings 100 = .ok s ∧ s.length = 14 := by
  obtain ⟨all, hall, hlengthAll⟩ := ticks_ok settings _ hfits.terminalTicks
  by_cases hused : 0 < shown.ticks
  · obtain ⟨one, hone, hlengthOne⟩ := ticks_ok settings _ hfits.ticks
    refine ⟨all ++ one, (bind_eq_ok _ _ _).mpr ⟨all, hall, ?_⟩, ?_⟩
    · dsimp only
      rw [if_pos hused]
      exact (bind_eq_ok _ _ _).mpr ⟨one, hone, rfl⟩
    · rw [List.length_append, hlengthAll, hlengthOne]
  · refine ⟨all ++ Interval.unknown, (bind_eq_ok _ _ _).mpr ⟨all, hall, ?_⟩, ?_⟩
    · dsimp only
      rw [if_neg hused]
      rfl
    · rw [List.length_append, hlengthAll]
      rfl

/-- The processor times where the long form shows them. -/
def longTimes (shown : Activity) (settings : Settings) (hertz : Int) : Except Fault Text :=
  if settings.longForm then times shown settings hertz else .ok []

/-- A row comes out if and only if every column does. -/
theorem row_eq_ok_iff {hertz : Int} {text : Text} :
    row machine session shown settings hertz now = .ok text ↔
      ∃ user, Table.user session settings = .ok user ∧
        ∃ origin, Table.origin session settings = .ok origin ∧
          ∃ login, Table.login machine session settings now = .ok login ∧
            ∃ idle, Table.idle machine session settings now = .ok idle ∧
              ∃ times, longTimes shown settings hertz = .ok times ∧
                user ++ tty session ++ origin ++ login ++ idle ++ times ++
                  command shown settings (pids session shown settings) = text := by
  unfold row
  rw [bind_eq_ok]
  refine exists_congr fun user => and_congr_right fun _ => ?_
  rw [bind_eq_ok]
  refine exists_congr fun origin => and_congr_right fun _ => ?_
  rw [bind_eq_ok]
  refine exists_congr fun login => and_congr_right fun _ => ?_
  rw [bind_eq_ok]
  refine exists_congr fun idle => and_congr_right fun _ => ?_
  unfold longTimes
  by_cases hlong : settings.longForm = true
  · simp only [hlong, if_true]
    rw [bind_eq_ok]
    exact exists_congr fun times => and_congr_right fun _ => pure_eq_ok _ _
  · simp only [hlong]
    exact (bind_eq_ok (.ok []) _ _).trans
      (exists_congr fun times => and_congr_right fun _ => pure_eq_ok _ _)

theorem longTimes_ok (hfits : Fits machine session shown settings now) :
    ∃ s, longTimes shown settings 100 = .ok s ∧
      s.length = if settings.longForm then 14 else 0 := by
  unfold longTimes
  by_cases hlong : settings.longForm = true
  · rw [if_pos hlong, if_pos hlong]
    exact times_ok hfits
  · rw [if_neg hlong, if_neg hlong]
    exact ⟨[], rfl, rfl⟩

theorem row_columns (hbounds : settings.InBounds)
    (hfits : Fits machine session shown settings now) :
    ∃ user origin login rest,
      (Table.user session settings = .ok user ∧ (user.length : Int) = settings.userWidth + 1) ∧
      (Table.origin session settings = .ok origin ∧
        (origin.length : Int) = if settings.showFrom then settings.fromWidth else 0) ∧
      (Table.login machine session settings now = .ok login ∧
        (login.length : Int) = if settings.longForm then 8 else 0) ∧
      rest.length = (if settings.longForm then 21 else 7) ∧
      row machine session shown settings 100 now =
        .ok (user ++ tty session ++ origin ++ login ++ rest ++
          command shown settings (pids session shown settings)) := by
  obtain ⟨user, huser, hlengthUser⟩ := user_ok session hbounds
  obtain ⟨origin, horigin, hlengthOrigin⟩ := origin_ok session hbounds
  obtain ⟨login, hlogin, hlengthLogin⟩ := login_ok hfits
  obtain ⟨idle, hidle, hlengthIdle⟩ := idle_ok hfits
  obtain ⟨times, htimes, hlengthTimes⟩ := longTimes_ok hfits
  refine ⟨user, origin, login, idle ++ times, ⟨huser, hlengthUser⟩, ⟨horigin, hlengthOrigin⟩,
    ⟨hlogin, hlengthLogin⟩, ?_, ?_⟩
  · rw [List.length_append, hlengthIdle, hlengthTimes]
    split_ifs <;> rfl
  · refine row_eq_ok_iff.mpr ⟨user, huser, origin, horigin, login, hlogin, idle, hidle, times,
      htimes, ?_⟩
    rw [← List.append_assoc _ idle times]

theorem row_ok (hbounds : settings.InBounds) (hfits : Fits machine session shown settings now) :
    ∃ fixed, row machine session shown settings 100 now =
        .ok (fixed ++ command shown settings (pids session shown settings)) ∧
      (fixed.length : Int) = fixedWidth settings := by
  obtain ⟨user, origin, login, rest, ⟨-, hlengthUser⟩, ⟨-, hlengthOrigin⟩, ⟨-, hlengthLogin⟩,
    hlengthRest, hrow⟩ := row_columns hbounds hfits
  refine ⟨_, hrow, ?_⟩
  simp only [List.length_append, length_tty]
  unfold fixedWidth
  split_ifs at hlengthOrigin hlengthLogin hlengthRest ⊢ <;> omega

end LoginReport.Table
