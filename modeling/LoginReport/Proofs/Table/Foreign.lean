import LoginReport.Proofs.Host.Visible
import LoginReport.Proofs.Session.TerminalNames
import LoginReport.Proofs.Table.Columns
import LoginReport.Proofs.Text.Control

set_option autoImplicit false

/-!
# Foreign text in a row

Every column of a row is printable ASCII but two: the name of the user and the command are shown as
others wrote them. So a control character gets into a row by one of these two, and by nothing else.
-/

namespace LoginReport

namespace Interval

theorem printable_clock (major minor : Int) {mark : Char}
    (hmark : 0x20 ≤ mark.toNat ∧ mark.toNat < 0x7f) :
    Text.Printable (clock major minor mark) := by
  have hend : Text.Printable [mark] := by
    intro c hc
    rw [List.mem_singleton.mp hc]
    exact hmark
  refine Text.Printable.append (Text.Printable.append ?_ ?_) hend
  · exact (Text.printable_blankTwo major).cons (by decide)
  · exact (Text.printable_zeroTwo minor).cons (by decide)

theorem printable_unknown : Text.Printable unknown := by decide

theorem printable_text (seconds centiseconds : Int) (oldStyle : Bool) :
    Text.Printable (text seconds centiseconds oldStyle) := by
  have hdays : Text.Printable "days".toList := by decide
  have hsecond : Text.Printable ['s'] := by decide
  unfold text
  split_ifs
  · exact printable_unknown
  · exact ((Text.printable_blankTwo _).cons (by decide)).append hdays
  · exact printable_clock _ _ (by decide)
  · exact printable_clock _ _ (by decide)
  · exact printable_clock _ _ (by decide)
  · exact printable_clock _ _ (by decide)
  · exact Text.printable_blanks 7
  · exact (((Text.printable_blankTwo _).cons (by decide)).append
      ((Text.printable_zeroTwo _).cons (by decide))).append hsecond

theorem printable_ofTicks {ticks hertz : Int} {oldStyle : Bool} {s : Text}
    (h : ofTicks ticks hertz oldStyle = .ok s) : Text.Printable s := by
  unfold ofTicks at h
  split at h
  · cases h
  · obtain ⟨hundredths, -, rfl⟩ := (map_eq_ok _ _ _).mp h
    exact printable_text _ _ _

end Interval

namespace Calendar

theorem printable_monthName (month : Nat) : Text.Printable (monthName month) :=
  getD_of_forall (P := fun name => Text.Printable name.toList) (by decide) (by decide) _

theorem printable_weekdayName (weekday : Nat) : Text.Printable (weekdayName weekday) :=
  getD_of_forall (P := fun name => Text.Printable name.toList) (by decide) (by decide) _

end Calendar

namespace LoginTime

theorem Form.printable_text (time : LocalTime) (form : Form) : Text.Printable (form.text time) := by
  have hblanks : Text.Printable [' ', ' '] := by decide
  cases form with
  | clock =>
    exact (((Text.printable_zeroTwo _).cons (by decide)).append
      ((Text.printable_zeroTwo _).cons (by decide))).append hblanks
  | weekday =>
    have hname := Calendar.printable_weekdayName time.weekday
    exact (((hname.padLeft 3 (by decide)).cons (by decide)).append
      (Text.printable_zeroTwo _)).append hblanks
  | date =>
    have hname := Calendar.printable_monthName time.date.month
    exact (((Text.printable_zeroTwo _).cons (by decide)).append
      (hname.padLeft 3 (by decide))).append (Text.printable_zeroTwo _)

theorem printable_column {zone : Int} {login now : Binary64} {shown : Text}
    (h : column zone login now = .ok shown) : Text.Printable shown := by
  obtain ⟨time, today, -, -, -, rfl⟩ := column_eq_ok.mp h
  exact Form.printable_text time _

end LoginTime

namespace Table

/-- The name of the user as the row shows it. -/
def shownName (session : LoginSession) (settings : Settings) : Text :=
  Text.cut (session.username.take userFieldSize) settings.userWidth

/-- The command as the row shows it. -/
def shownCommand (session : LoginSession) (shown : Activity) (settings : Settings) : Text :=
  shown.command.cut (commandWidth settings (pids session shown settings))

variable {machine : Machine} {session : LoginSession} {shown : Activity} {settings : Settings}
variable {hertz : Int} {now : Binary64} {s : Text}

theorem user_eq (h : user session settings = .ok s) :
    ∃ blanks, s = shownName session settings ++ List.replicate blanks ' ' :=
  ⟨_, (Column.unsigned_eq_ok_iff.mp ((mapError_eq_ok _ _ _).mp h)).2.2⟩

theorem printable_tty (htty : Text.Printable session.tty) : Text.Printable (tty session) := by
  have htake : Text.Printable (session.tty.take 8) := fun c hc => htty c (List.mem_of_mem_take hc)
  exact htake.padRight 9

theorem printable_nil : Text.Printable [] := by decide

theorem printable_origin (h : origin session settings = .ok s) : Text.Printable s := by
  unfold origin at h
  split at h
  · exact Origin.printable_ofHost ((mapError_eq_ok _ _ _).mp h)
  · rw [← Except.ok.inj h]
    exact printable_nil

theorem printable_login (h : login machine session settings now = .ok s) :
    Text.Printable s := by
  unfold login at h
  split at h
  · exact LoginTime.printable_column ((mapError_eq_ok _ _ _).mp h)
  · rw [← Except.ok.inj h]
    exact printable_nil

theorem printable_idle (h : idle machine session settings now = .ok s) : Text.Printable s := by
  unfold idle at h
  split at h
  · rw [← Except.ok.inj h]
    decide
  · obtain ⟨seconds, -, rfl⟩ := (map_eq_ok _ _ _).mp h
    exact Interval.printable_text _ _ _

theorem printable_ticks {n : Int} (h : ticks n hertz settings = .ok s) : Text.Printable s :=
  Interval.printable_ofTicks ((mapError_eq_ok _ _ _).mp h)

theorem printable_times (h : times shown settings hertz = .ok s) : Text.Printable s := by
  obtain ⟨all, hall, h⟩ := (bind_eq_ok _ _ _).mp h
  have hprintable := printable_ticks hall
  dsimp only at h
  split at h
  · obtain ⟨one, hone, h⟩ := (bind_eq_ok _ _ _).mp h
    rw [← (pure_eq_ok _ _).mp h]
    exact hprintable.append (printable_ticks hone)
  · rw [← Except.ok.inj h]
    exact hprintable.append Interval.printable_unknown

theorem printable_longTimes (h : longTimes shown settings hertz = .ok s) : Text.Printable s := by
  unfold longTimes at h
  split at h
  · exact printable_times h
  · rw [← Except.ok.inj h]
    exact printable_nil

theorem printable_pids (session : LoginSession) (shown : Activity) (settings : Settings) :
    Text.Printable (pids session shown settings) := by
  unfold pids
  split
  · exact ((Text.visible_ofInt _).printable.cons (by decide)).append
      ((Text.visible_ofInt _).printable.cons (by decide))
  · exact printable_nil

/-- A row has the name at its beginning, the command at its end and printable columns between. -/
theorem row_eq (htty : Text.Printable session.tty)
    (h : row machine session shown settings hertz now = .ok s) :
    ∃ columns, s = shownName session settings ++ columns ++ shownCommand session shown settings ∧
      Text.Printable columns := by
  obtain ⟨user, huser, origin, horigin, login, hlogin, idle, hidle, times, htimes, rfl⟩ :=
    row_eq_ok_iff.mp h
  obtain ⟨blanks, rfl⟩ := user_eq huser
  refine ⟨List.replicate blanks ' ' ++ tty session ++ origin ++ login ++ idle ++ times ++
    (pids session shown settings ++ [' ']), ?_, ?_⟩
  · simp [command, shownCommand]
  · have hblank : Text.Printable [' '] := by decide
    exact ((((((Text.printable_blanks blanks).append (printable_tty htty)).append
      (printable_origin horigin)).append (printable_login hlogin)).append
      (printable_idle hidle)).append (printable_longTimes htimes)).append
      ((printable_pids session shown settings).append hblank)

theorem mem_row_iff (htty : Text.Printable session.tty)
    (h : row machine session shown settings hertz now = .ok s) {c : Char} (hc : Text.IsControl c) :
    c ∈ s ↔ c ∈ shownName session settings ∨ c ∈ shownCommand session shown settings := by
  obtain ⟨columns, rfl, hcolumns⟩ := row_eq htty h
  have hnot := hcolumns.not_mem hc
  simp [hnot]

theorem count_newline_row (htty : Text.Printable session.tty)
    (h : row machine session shown settings hertz now = .ok s) :
    s.count '\n' = (shownName session settings).count '\n' +
      (shownCommand session shown settings).count '\n' := by
  obtain ⟨columns, rfl, hcolumns⟩ := row_eq htty h
  have hnone := List.count_eq_zero_of_not_mem (hcolumns.not_mem Text.isControl_newline)
  rw [List.count_append, List.count_append, hnone, Nat.add_zero]

end Table

end LoginReport
