import LoginReport.Proofs.Time.Form

set_option autoImplicit false

/-!
# What a login time tells of its day

A clock stands for a login of the last half day or of the same date, and for one whose day of the
year has come round again. A weekday stands for one of the six days before today, so that it names
the date.
-/

namespace LoginReport

namespace LocalTime

/-- The day of the year has come round again in a later year. -/
structure IsAnniversary (time today : LocalTime) : Prop where
  yearDay : time.yearDay = today.yearDay
  year : time.date.year < today.date.year

/-- The day of an instant where it is shown, counted as the calendar counts days. -/
def dayOf (zone seconds : Int) : Int := Calendar.epoch + (seconds + zone) / secondsPerDay

variable {time today : LocalTime} {zone m n : Int} {instant now : Binary64}

namespace IsTimeOf

variable (h : time.IsTimeOf zone instant m)
include h

theorem date_eq : time.date = Calendar.date (dayOf zone m) := by
  rw [h.eq_ofSeconds]
  rfl

theorem year_eq : time.date.year = (Calendar.yearDay (dayOf zone m)).year := by
  rw [h.date_eq, Calendar.date_eq]

theorem yearDay_eq : time.yearDay = (Calendar.yearDay (dayOf zone m)).day := by
  rw [h.eq_ofSeconds]
  rfl

theorem weekday_eq : time.weekday = Calendar.weekday (dayOf zone m) := by
  rw [h.eq_ofSeconds]
  rfl

variable (hnow : today.IsTimeOf zone now n)
include hnow

theorem dayOf_eq_of_date_eq (hdate : time.date = today.date) : dayOf zone m = dayOf zone n := by
  rw [h.date_eq, hnow.date_eq] at hdate
  exact Calendar.date_injective hdate

/-- The same day of the year is the same date, or in another year. -/
theorem yearDay_eq_iff (hlater : m ≤ n) :
    time.yearDay = today.yearDay ↔ time.date = today.date ∨ time.IsAnniversary today := by
  have hdays : dayOf zone m ≤ dayOf zone n := by
    unfold dayOf secondsPerDay
    omega
  constructor
  · intro hday
    have hcount := Calendar.daysBefore_yearDay (dayOf zone m)
    have hcountNow := Calendar.daysBefore_yearDay (dayOf zone n)
    rw [← h.year_eq, ← h.yearDay_eq] at hcount
    rw [← hnow.year_eq, ← hnow.yearDay_eq, ← hday] at hcountNow
    rcases Int.lt_or_le time.date.year today.date.year with hyear | hyear
    · exact Or.inr ⟨hday, hyear⟩
    · have hbefore := Calendar.daysBefore_mono hyear
      have hsame : dayOf zone m = dayOf zone n := by omega
      exact Or.inl (by rw [h.date_eq, hnow.date_eq, hsame])
  · rintro (hdate | hanniversary)
    · rw [h.yearDay_eq, hnow.yearDay_eq, h.dayOf_eq_of_date_eq hnow hdate]
    · exact hanniversary.yearDay

theorem date_ne_of_day_lt (hlater : (secondsPerDay : Int) < n - m) : time.date ≠ today.date := by
  intro hdate
  have hday := h.dayOf_eq_of_date_eq hnow hdate
  unfold dayOf at hday
  unfold secondsPerDay at hday hlater
  omega

end IsTimeOf

end LocalTime

namespace LoginTime

variable {zone : Int} {login now : Binary64} {m n : Int} {time today : LocalTime}

theorem formOf_eq_clock_iff (elapsed : Int) :
    formOf time today elapsed = .clock ↔ elapsed ≤ halfDay ∨ time.yearDay = today.yearDay := by
  unfold formOf
  split_ifs
  · exact iff_of_false (by decide) (by omega)
  · exact iff_of_false (by decide) (by omega)
  · exact iff_of_true rfl (by omega)

/-- Six days part the weekdays from the dates. -/
theorem formOf_eq_weekday_iff (elapsed : Int) : formOf time today elapsed = .weekday ↔
    formOf time today elapsed ≠ .clock ∧ elapsed ≤ sixDays := by
  unfold formOf
  split_ifs
  · exact iff_of_false (by decide) (by omega)
  · exact iff_of_true rfl ⟨by decide, by omega⟩
  · exact iff_of_false (by decide) (by simp)

theorem formOf_eq_date_iff (elapsed : Int) : formOf time today elapsed = .date ↔
    formOf time today elapsed ≠ .clock ∧ sixDays < elapsed := by
  unfold formOf
  split_ifs
  · exact iff_of_true rfl ⟨by decide, by omega⟩
  · exact iff_of_false (by decide) (by omega)
  · exact iff_of_false (by decide) (by simp)

/-- The login is of the last half day, of the same date or of the same day in an earlier year. -/
def IsCurrent (time today : LocalTime) (elapsed : Int) : Prop :=
  elapsed ≤ halfDay ∨ time.date = today.date ∨ time.IsAnniversary today

section
variable (hlogin : time.IsTimeOf zone login m) (hnow : today.IsTimeOf zone now n)
include hlogin hnow

theorem formOf_eq_clock_iff_isCurrent :
    formOf time today (n - m) = .clock ↔ IsCurrent time today (n - m) := by
  rw [formOf_eq_clock_iff, IsCurrent]
  rcases Int.lt_or_le halfDay (n - m) with hlate | hrecent
  · unfold halfDay at hlate ⊢
    rw [hlogin.yearDay_eq_iff hnow (by omega)]
  · exact iff_of_true (Or.inl hrecent) (Or.inl hrecent)

theorem isCurrent_iff_isAnniversary (hday : (LocalTime.secondsPerDay : Int) < n - m) :
    IsCurrent time today (n - m) ↔ time.IsAnniversary today := by
  rw [IsCurrent, or_iff_right (hlogin.date_ne_of_day_lt hnow hday)]
  unfold LocalTime.secondsPerDay at hday
  exact or_iff_right (by unfold halfDay; omega)

/-- A login has a form to be shown in, unless its year has no names and it is not current. The form
is a clock for a current login, a weekday for another of the last six days and a date for an older
one, so that a clock shows a login of more than a day ago on its anniversaries only. -/
theorem form_by_age :
    ((∃ s, column zone login now = .ok s) ↔
        IsCurrent time today (n - m) ∨ time.date.year < 0x80000000) ∧
      ∀ s, column zone login now = .ok s →
        (∀ form : Form, form.IsOf s → s = form.text time) ∧
          (Form.clock.IsOf s ↔ IsCurrent time today (n - m)) ∧
          (Form.weekday.IsOf s ↔ ¬IsCurrent time today (n - m) ∧ n - m ≤ sixDays) ∧
          (Form.date.IsOf s ↔ ¬IsCurrent time today (n - m) ∧ sixDays < n - m) ∧
          ((LocalTime.secondsPerDay : Int) < n - m →
            (Form.clock.IsOf s ↔ time.IsAnniversary today)) := by
  have hcurrent := formOf_eq_clock_iff_isCurrent hlogin hnow
  have hshown : ∀ form : Form, form.IsOf ((formOf time today (n - m)).text time) ↔
      formOf time today (n - m) = form := fun form => Form.isOf_text_iff.trans eq_comm
  constructor
  · simp only [column_eq_ok_iff hlogin hnow, hcurrent, exists_and_left, exists_eq, and_true]
  · intro s hs
    obtain ⟨-, rfl⟩ := (column_eq_ok_iff hlogin hnow s).mp hs
    refine ⟨?_, ?_, ?_, ?_, ?_⟩
    · intro form hform
      rw [(hshown form).mp hform]
    · rw [hshown, hcurrent]
    · rw [hshown, formOf_eq_weekday_iff, ne_eq, hcurrent]
    · rw [hshown, formOf_eq_date_iff, ne_eq, hcurrent]
    · intro hday
      rw [hshown, hcurrent, isCurrent_iff_isAnniversary hlogin hnow hday]

end

/-- The first of March in one year and the leap day in the next are the same day of the year. -/
theorem form_by_age_on_leap_day :
    (LocalTime.ofSeconds (1677672000 + 3600)).IsTimeOf 3600 (.ofInt 1677672000) 1677672000 ∧
      (LocalTime.ofSeconds (1709229600 + 3600)).IsTimeOf 3600 (.ofInt 1709229600) 1709229600 ∧
      (LocalTime.ofSeconds (1677672000 + 3600)).date = ⟨2023, 3, 1⟩ ∧
      (LocalTime.ofSeconds (1709229600 + 3600)).date = ⟨2024, 2, 29⟩ ∧
      ∃ s, column 3600 (.ofInt 1677672000) (.ofInt 1709229600) = .ok s ∧ Form.clock.IsOf s ∧
        ¬Form.weekday.IsOf s ∧ ¬Form.date.IsOf s := by
  have hlogin := LocalTime.isTimeOf_ofInt 3600 1677672000 (by decide +kernel) (by decide +kernel)
    (by decide +kernel)
  have hnow := LocalTime.isTimeOf_ofInt 3600 1709229600 (by decide +kernel) (by decide +kernel)
    (by decide +kernel)
  obtain ⟨hexists, hforms⟩ := form_by_age hlogin hnow
  have hcurrent : IsCurrent (LocalTime.ofSeconds (1677672000 + 3600))
      (LocalTime.ofSeconds (1709229600 + 3600)) (1709229600 - 1677672000) :=
    Or.inr (Or.inr ⟨by decide +kernel, by decide +kernel⟩)
  obtain ⟨s, hs⟩ := hexists.mpr (Or.inl hcurrent)
  obtain ⟨-, hclock, hweekday, hdate, -⟩ := hforms s hs
  refine ⟨hlogin, hnow, by decide +kernel, by decide +kernel, s, hs, hclock.mpr hcurrent, ?_, ?_⟩
  · intro h
    exact (hweekday.mp h).1 hcurrent
  · intro h
    exact (hdate.mp h).1 hcurrent

/-- A login of the first of January is shown by a clock a year later, on another date. -/
theorem clock_a_year_later :
    (LocalTime.ofSeconds 0).IsTimeOf 0 (.ofInt 0) 0 ∧
      (LocalTime.ofSeconds 31536000).IsTimeOf 0 (.ofInt 31536000) 31536000 ∧
      halfDay < 31536000 - 0 ∧ (LocalTime.ofSeconds 0).date ≠ (LocalTime.ofSeconds 31536000).date ∧
      column 0 (.ofInt 0) (.ofInt 31536000) = .ok " 00:00  ".toList ∧
      Form.clock.IsOf " 00:00  ".toList := by
  refine ⟨?_, ?_, by decide, by decide +kernel, by decide +kernel, LocalTime.ofSeconds 0, ?_⟩
  · exact LocalTime.isTimeOf_ofInt 0 0 (by decide +kernel) (by decide +kernel) (by decide +kernel)
  · exact LocalTime.isTimeOf_ofInt 0 31536000 (by decide +kernel) (by decide +kernel)
      (by decide +kernel)
  · decide +kernel

/-- The weekday that a text in this form begins with, behind a blank. -/
def shownWeekday (s : Text) : Text := (s.drop 1).take 3

theorem shownWeekday_text (time : LocalTime) (hweekday : time.weekday < 7) :
    shownWeekday (Form.weekday.text time) = Calendar.weekdayName time.weekday := by
  have hlength := Calendar.length_weekdayName hweekday
  unfold shownWeekday Form.text weekday Text.padLeft
  rw [hlength, Nat.sub_self, List.replicate_zero, List.nil_append, List.append_assoc,
    List.cons_append, List.drop_succ_cons, List.drop_zero]
  exact List.take_left' hlength

section ShownByWeekday

variable {s : Text} (hlogin : time.IsTimeOf zone login m) (hnow : today.IsTimeOf zone now n)
variable (hs : column zone login now = .ok s) (hform : Form.weekday.IsOf s)
include hlogin hnow hs hform

theorem formOf_of_shown :
    formOf time today (n - m) = .weekday ∧ s = Form.weekday.text time := by
  obtain ⟨-, rfl⟩ := (column_eq_ok_iff hlogin hnow s).mp hs
  have hweekday := Form.isOf_text_iff.mp hform
  exact ⟨hweekday.symm, by rw [← hweekday]⟩

/-- Six days of seconds end on the sixth day at the latest. -/
theorem dayOf_of_shown : LocalTime.dayOf zone m < LocalTime.dayOf zone n ∧
    LocalTime.dayOf zone n ≤ LocalTime.dayOf zone m + 6 := by
  obtain ⟨hweekday, -⟩ := formOf_of_shown hlogin hnow hs hform
  obtain ⟨hclock, hsix⟩ := (formOf_eq_weekday_iff _).mp hweekday
  rw [ne_eq, formOf_eq_clock_iff, hlogin.yearDay_eq, hnow.yearDay_eq] at hclock
  have hdays : LocalTime.dayOf zone m ≠ LocalTime.dayOf zone n := by
    intro hsame
    rw [hsame] at hclock
    exact hclock (Or.inr rfl)
  unfold halfDay at hclock
  unfold sixDays at hsix
  unfold LocalTime.dayOf LocalTime.secondsPerDay at *
  omega

theorem shownWeekday_of_shown :
    shownWeekday s = Calendar.weekdayName (Calendar.weekday (LocalTime.dayOf zone m)) := by
  obtain ⟨-, rfl⟩ := formOf_of_shown hlogin hnow hs hform
  rw [shownWeekday_text time (hlogin.weekday_eq ▸ Calendar.weekday_lt _), hlogin.weekday_eq]

end ShownByWeekday

/-- A login shown by its weekday was one to six days before today, by the calendar's own order of
dates. So the weekday is not today's, and another login that shows the same weekday was on the same
date. -/
theorem weekday_names_date {s : Text} (hnow : today.IsTimeOf zone now n)
    (hlogin : time.IsTimeOf zone login m) (hs : column zone login now = .ok s)
    (hform : Form.weekday.IsOf s) :
    (∃ k, 1 ≤ k ∧ k ≤ 6 ∧ CalendarDate.next^[k] time.date = today.date) ∧
      shownWeekday s = Calendar.weekdayName time.weekday ∧
      shownWeekday s ≠ Calendar.weekdayName today.weekday ∧
      ∀ (other : Binary64) (m' : Int) (time' : LocalTime) (s' : Text),
        time'.IsTimeOf zone other m' → column zone other now = .ok s' → Form.weekday.IsOf s' →
          shownWeekday s' = shownWeekday s → time'.date = time.date := by
  obtain ⟨hbefore, hsix⟩ := dayOf_of_shown hlogin hnow hs hform
  have hshown := shownWeekday_of_shown hlogin hnow hs hform
  refine ⟨⟨(LocalTime.dayOf zone n - LocalTime.dayOf zone m).toNat, by omega, by omega, ?_⟩,
    ?_, ?_, ?_⟩
  · rw [hlogin.date_eq, hnow.date_eq, ← Calendar.date_add]
    congr 1
    omega
  · rw [hshown, hlogin.weekday_eq]
  · rw [hshown, hnow.weekday_eq]
    intro hsame
    have hweekday := Calendar.weekdayName_inj (Calendar.weekday_lt _) (Calendar.weekday_lt _) hsame
    have hday := Calendar.eq_of_weekday_eq (LocalTime.dayOf zone n) ⟨by omega, by omega⟩
      ⟨by omega, Int.le_refl _⟩ hweekday
    omega
  · intro other m' time' s' hother hs' hform' hsame
    obtain ⟨hbefore', hsix'⟩ := dayOf_of_shown hother hnow hs' hform'
    rw [hshown, shownWeekday_of_shown hother hnow hs' hform'] at hsame
    have hweekday := Calendar.weekdayName_inj (Calendar.weekday_lt _) (Calendar.weekday_lt _) hsame
    have hday := Calendar.eq_of_weekday_eq (LocalTime.dayOf zone n) ⟨by omega, by omega⟩
      ⟨by omega, by omega⟩ hweekday
    rw [hother.date_eq, hlogin.date_eq, hday]

/-- Across the end of a month, east of universal time. -/
theorem weekday_names_date_of_leap_day :
    (LocalTime.ofSeconds (1709280000 + 3600)).IsTimeOf 3600 (.ofInt 1709280000) 1709280000 ∧
      (LocalTime.ofSeconds (1709163000 + 3600)).IsTimeOf 3600 (.ofInt 1709163000) 1709163000 ∧
      column 3600 (.ofInt 1709163000) (.ofInt 1709280000) = .ok " Thu00  ".toList ∧
      Form.weekday.IsOf " Thu00  ".toList ∧
      (LocalTime.ofSeconds (1709280000 + 3600)).date = ⟨2024, 3, 1⟩ ∧
      (LocalTime.ofSeconds (1709163000 + 3600)).date = ⟨2024, 2, 29⟩ ∧
      shownWeekday " Thu00  ".toList ≠
        Calendar.weekdayName (LocalTime.ofSeconds (1709280000 + 3600)).weekday := by
  have hnow := LocalTime.isTimeOf_ofInt 3600 1709280000 (by decide +kernel) (by decide +kernel)
    (by decide +kernel)
  have hlogin := LocalTime.isTimeOf_ofInt 3600 1709163000 (by decide +kernel) (by decide +kernel)
    (by decide +kernel)
  have hs : column 3600 (.ofInt 1709163000) (.ofInt 1709280000) = .ok " Thu00  ".toList := by
    decide +kernel
  have hform : Form.weekday.IsOf " Thu00  ".toList :=
    ⟨LocalTime.ofSeconds (1709163000 + 3600), by decide +kernel⟩
  obtain ⟨-, -, hother, -⟩ := weekday_names_date hnow hlogin hs hform
  exact ⟨hnow, hlogin, hs, hform, by decide +kernel, by decide +kernel, hother⟩

end LoginTime

end LoginReport
