import LoginReport.Proofs.Time.Form

set_option autoImplicit false

/-!
# The width of login times

A day of a month has at most two digits and the names of months and weekdays have three characters,
so every form of the login time fills its eight columns.
-/

namespace LoginReport

namespace Calendar

theorem monthDay_day_le (lengths : List Nat) (month day : Nat)
    (hlengths : ∀ length ∈ lengths, length ≤ 31) (hday : day < lengths.sum) :
    (monthDay month day lengths).2 ≤ 31 := by
  induction lengths generalizing month day with
  | nil => cases hday
  | cons length rest ih =>
    have hlength := hlengths length List.mem_cons_self
    rw [List.sum_cons] at hday
    rcases Nat.lt_or_ge day length with h | h
    · rw [monthDay_of_lt h]
      dsimp only
      omega
    · rw [monthDay_of_le h]
      exact ih _ _ (fun l hl => hlengths l (List.mem_cons_of_mem _ hl)) (by omega)

theorem monthLengths_le (year : Int) : ∀ length ∈ monthLengths year, length ≤ 31 := by
  unfold monthLengths
  cases isLeap year <;> decide

theorem day_le_of_found (year : Int) (found : Nat × Nat) (h : found.2 ≤ 31) :
    (CalendarDate.mk year found.1 found.2).day ≤ 31 := h

theorem day_date_le (days : Int) : (date days).day ≤ 31 := by
  have hday := day_lt_yearLength days
  rw [← monthLengths_sum] at hday
  rw [date_eq]
  -- Comparing the date with what was found by evaluation would run the search for the month.
  exact day_le_of_found _ _ (monthDay_day_le _ 1 _ (monthLengths_le _) hday)

theorem length_monthName_le (month : Nat) : (monthName month).length ≤ 3 :=
  getD_of_forall (P := fun name => name.toList.length ≤ 3) (by decide) (by simp [monthNames]) _

theorem length_weekdayName_le (weekday : Nat) : (weekdayName weekday).length ≤ 3 :=
  getD_of_forall (P := fun name => name.toList.length ≤ 3) (by decide) (by simp [weekdayNames]) _

end Calendar

namespace LocalTime

/-- The fields fill two digits each. -/
structure InRange (time : LocalTime) : Prop where
  day : time.date.day ≤ 31
  hour : time.hour < 24
  minute : time.minute < 60

theorem inRange_ofSeconds (seconds : Int) : InRange (ofSeconds seconds) where
  day := by
    unfold ofSeconds
    exact Calendar.day_date_le _
  hour := hour_ofSeconds_lt seconds
  minute := minute_ofSeconds_lt seconds

theorem inRange_of_ofInstant {zone : Int} {instant : Binary64} {time : LocalTime}
    (h : ofInstant zone instant = .ok time) : InRange time := by
  obtain ⟨seconds, -, h⟩ := (bind_eq_ok _ _ _).mp h
  split at h
  · obtain rfl := Except.ok.inj h
    exact inRange_ofSeconds (seconds + zone)
  · cases h

end LocalTime

namespace LoginTime

variable {time : LocalTime}

theorem length_clock (h : time.InRange) : (clock time).length = 8 := by
  have hour := Text.length_zeroTwo time.hour (by omega) (by have := h.hour; omega)
  have minute := Text.length_zeroTwo time.minute (by omega) (by have := h.minute; omega)
  simp [clock, hour, minute]

theorem length_weekday (h : time.InRange) (name : Text) (hname : name.length ≤ 3) :
    (weekday time name).length = 8 := by
  have hour := Text.length_zeroTwo time.hour (by omega) (by have := h.hour; omega)
  have padded := Text.length_padLeft name 3 ' '
  rw [Nat.max_eq_right hname] at padded
  simp [weekday, hour, padded]

theorem length_date (h : time.InRange) (month : Text) (hmonth : month.length ≤ 3) :
    (date time month).length = 8 := by
  have day := Text.length_zeroTwo time.date.day (by omega) (by have := h.day; omega)
  have year := Text.length_zeroTwo (time.date.year % 100) (by omega) (by omega)
  have padded := Text.length_padLeft month 3 ' '
  rw [Nat.max_eq_right hmonth] at padded
  simp [date, day, year, padded]

theorem Form.length_text (h : time.InRange) (form : Form) : (form.text time).length = 8 := by
  cases form with
  | clock => exact length_clock h
  | weekday => exact length_weekday h _ (Calendar.length_weekdayName_le _)
  | date => exact length_date h _ (Calendar.length_monthName_le _)

theorem length_column {zone : Int} {login now : Binary64} {shown : Text}
    (h : column zone login now = .ok shown) : shown.length = 8 := by
  obtain ⟨time, today, hlogin, -, -, rfl⟩ := column_eq_ok.mp h
  exact Form.length_text (LocalTime.inRange_of_ofInstant hlogin) _

end LoginTime

end LoginReport
