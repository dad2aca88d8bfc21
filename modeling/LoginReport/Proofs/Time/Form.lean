import LoginReport.Proofs.Number.Integers
import LoginReport.Proofs.Results
import LoginReport.Proofs.Text.Decimal
import LoginReport.Proofs.Time.Calendar
import LoginReport.Time.Login
import Mathlib.Data.List.Basic
import Mathlib.Tactic.SplitIfs

set_option autoImplicit false

/-!
# The form of a login time

A login time is shown in one of three forms, which can be told from the text alone: only a clock has
a colon, and only a date does not end with a blank. Which form is shown follows from the seconds
since the login and from the two days of the year.
-/

namespace LoginReport

/-- The instant is a whole number of seconds from the epoch, and this is its local time. -/
structure LocalTime.IsTimeOf (time : LocalTime) (zone : Int) (instant : Binary64) (seconds : Int) :
    Prop where
  whole : instant.IsInteger seconds
  shown : LocalTime.ofInstant zone instant = .ok time

theorem LocalTime.IsTimeOf.eq_ofSeconds {time : LocalTime} {zone : Int} {instant : Binary64}
    {seconds : Int} (h : time.IsTimeOf zone instant seconds) :
    time = LocalTime.ofSeconds (seconds + zone) := by
  obtain ⟨⟨negative, units, rfl, hunits⟩, hshown⟩ := h
  obtain ⟨counted, hcounted, hlocal⟩ := (bind_eq_ok _ _ _).mp hshown
  have hwhole : counted = seconds := by
    unfold LocalTime.wholeSeconds at hcounted
    dsimp only at hcounted
    split at hcounted
    · rw [← Except.ok.inj hcounted, Binary64.IsInteger.floorUnits hunits]
    · cases hcounted
  subst hwhole
  split at hlocal
  · exact (Except.ok.inj hlocal).symm
  · cases hlocal

/-- Every integer of few enough digits, in years that a clock can hold. -/
theorem LocalTime.isTimeOf_ofInt (zone seconds : Int) (hfew : seconds.natAbs < weight 53)
    (hfits : yearFits seconds = true) (hlocal : yearFits (seconds + zone) = true) :
    (ofSeconds (seconds + zone)).IsTimeOf zone (Binary64.ofInt seconds) seconds := by
  have hwhole := Binary64.isInteger_ofInt hfew
  refine ⟨hwhole, ?_⟩
  obtain ⟨negative, units, hnumber, hunits⟩ := hwhole
  have hword : weight 53 < 0x8000000000000000 := by decide +kernel
  have hcounted : wholeSeconds (.finite negative units) = .ok seconds := by
    unfold wholeSeconds
    dsimp only
    rw [Binary64.IsInteger.floorUnits hunits, if_pos (by omega)]
  rw [hnumber, ofInstant, hcounted]
  exact if_pos ⟨hfits, hlocal⟩

theorem LocalTime.named_bind_eq_ok {time : LocalTime} {name s : Text} {shown : Text → Text} :
    (time.named name >>= fun named => pure (shown named)) = .ok s ↔
      time.date.year < 0x80000000 ∧ s = shown name := by
  unfold LocalTime.named
  split
  · rename_i hfits
    change Except.ok (shown name) = .ok s ↔ _
    rw [and_iff_right hfits, Except.ok.injEq, eq_comm]
  · rename_i hfits
    rw [bind_eq_ok]
    simp [hfits]

namespace LoginTime

inductive Form where
  | clock
  | weekday
  | date
deriving DecidableEq, Repr

namespace Form

/-- A time in the form. -/
def text (time : LocalTime) : Form → Text
  | clock => LoginTime.clock time
  | weekday => LoginTime.weekday time (Calendar.weekdayName time.weekday)
  | date => LoginTime.date time (Calendar.monthName time.date.month)

/-- The text shows some time in the form. -/
def IsOf (form : Form) (s : Text) : Prop := ∃ time, s = form.text time

theorem exists_shortYear (time : LocalTime) : ∃ n : Nat, time.date.year % 100 = n :=
  Int.eq_ofNat_of_zero_le (Int.emod_nonneg time.date.year (by decide))

theorem not_mem_padLeft {c fill : Char} {name : Text} (hfill : c ≠ fill) (hname : c ∉ name)
    (width : Nat) : c ∉ name.padLeft width fill := by
  intro h
  rcases List.mem_append.mp h with h | h
  · exact hfill (List.eq_of_mem_replicate h)
  · exact hname h

theorem not_mem_zeroTwo {c : Char} (h : c.isDigit = false) (n : Nat) : c ∉ Text.zeroTwo n := by
  intro hc
  rw [Text.isDigit_of_mem_zeroTwo hc] at h
  cases h

theorem colon_not_mem_weekdayName (weekday : Nat) : ':' ∉ Calendar.weekdayName weekday :=
  Calendar.getD_of_forall (P := fun name => ':' ∉ name.toList) (by decide) (by decide) _

theorem colon_not_mem_monthName (month : Nat) : ':' ∉ Calendar.monthName month :=
  Calendar.getD_of_forall (P := fun name => ':' ∉ name.toList) (by decide) (by decide) _

theorem colon_mem_text_iff (form : Form) (time : LocalTime) :
    ':' ∈ form.text time ↔ form = clock := by
  have hnumber := not_mem_zeroTwo (c := ':') (by decide)
  cases form with
  | clock => simp [text, LoginTime.clock]
  | weekday =>
    have hname := not_mem_padLeft (by decide : ':' ≠ ' ')
      (colon_not_mem_weekdayName time.weekday) 3
    simp [text, LoginTime.weekday, hname, hnumber]
  | date =>
    obtain ⟨year, hyear⟩ := exists_shortYear time
    have hname := not_mem_padLeft (by decide : ':' ≠ ' ')
      (colon_not_mem_monthName time.date.month) 3
    simp [text, LoginTime.date, hname, hnumber, hyear]

theorem ends_with_blank (s : Text) : (s ++ [' ', ' ']).getLast? = some ' ' := by
  rw [List.getLast?_append]
  rfl

theorem not_ends_with_blank (s : Text) (n : Nat) : (s ++ Text.zeroTwo n).getLast? ≠ some ' ' := by
  intro hlast
  have hlength := Text.length_padLeft (Text.ofInt n) 2 '0'
  rw [← Text.zeroTwo] at hlength
  have hne : Text.zeroTwo n ≠ [] := List.ne_nil_of_length_pos (by omega)
  rw [List.getLast?_append_of_ne_nil _ hne] at hlast
  exact not_mem_zeroTwo (by decide) n (List.mem_of_getLast? hlast)

theorem ends_with_blank_iff (form : Form) (time : LocalTime) :
    (form.text time).getLast? = some ' ' ↔ form ≠ date := by
  cases form with
  | clock => exact iff_of_true (ends_with_blank _) (by decide)
  | weekday => exact iff_of_true (ends_with_blank _) (by decide)
  | date =>
    obtain ⟨year, hyear⟩ := exists_shortYear time
    rw [text, LoginTime.date, hyear]
    exact iff_of_false (not_ends_with_blank _ year) (by decide)

theorem eq_of_text_eq {form other : Form} {time time' : LocalTime}
    (h : form.text time = other.text time') : form = other := by
  have hclock : form = clock ↔ other = clock := by
    rw [← colon_mem_text_iff form time, h, colon_mem_text_iff]
  have hdate : form ≠ date ↔ other ≠ date := by
    rw [← ends_with_blank_iff form time, h, ends_with_blank_iff]
  cases form <;> cases other <;> simp at hclock hdate ⊢

/-- A text in one form is in no other. -/
theorem isOf_text_iff {form other : Form} {time : LocalTime} :
    other.IsOf (form.text time) ↔ other = form := by
  constructor
  · rintro ⟨time', h⟩
    exact (eq_of_text_eq h).symm
  · rintro rfl
    exact ⟨time, rfl⟩

end Form

/-- The form that the column chooses, for any number that has gone by since the login. -/
def formAfter (time today : LocalTime) (elapsed : Binary64) : Form :=
  if elapsed.exceeds halfDay && time.yearDay != today.yearDay then
    if elapsed.exceeds sixDays then .date else .weekday
  else .clock

/-- The column shows the login's own time in the chosen form. Only a clock needs no name. -/
theorem column_eq_ok {zone : Int} {login now : Binary64} {s : Text} :
    column zone login now = .ok s ↔ ∃ time today,
      LocalTime.ofInstant zone login = .ok time ∧ LocalTime.ofInstant zone now = .ok today ∧
        (formAfter time today (now.sub login) = .clock ∨ time.date.year < 0x80000000) ∧
          s = (formAfter time today (now.sub login)).text time := by
  refine (bind_eq_ok _ _ _).trans (exists_congr fun time => ?_)
  rw [exists_and_left]
  refine and_congr_right fun _ => ?_
  refine (bind_eq_ok _ _ _).trans (exists_congr fun today => and_congr_right fun _ => ?_)
  unfold formAfter
  dsimp only
  split_ifs
  · exact LocalTime.named_bind_eq_ok.trans (by simp [Form.text])
  · exact LocalTime.named_bind_eq_ok.trans (by simp [Form.text])
  · rw [pure_eq_ok]
    simp [Form.text, eq_comm]

/-- The form for the seconds since a login and the two days of the year. -/
def formOf (time today : LocalTime) (elapsed : Int) : Form :=
  if halfDay < elapsed ∧ time.yearDay ≠ today.yearDay then
    if sixDays < elapsed then .date else .weekday
  else .clock

section Column

variable {zone : Int} {login now : Binary64} {m n : Int} {time today : LocalTime}

theorem limit_of_halfDay : 0 ≤ halfDay ∧ halfDay < weight 52 := by decide +kernel

theorem limit_of_sixDays : 0 ≤ sixDays ∧ sixDays < weight 52 := by decide +kernel

section
variable (hlogin : time.IsTimeOf zone login m) (hnow : today.IsTimeOf zone now n)
include hlogin hnow

theorem elapsed_iff {limit : Int} (h : 0 ≤ limit ∧ limit < weight 52) :
    (now.sub login).exceeds limit = true ↔ limit < n - m :=
  hlogin.whole.exceeds_sub_iff hnow.whole h.1 h.2

theorem formAfter_eq_formOf : formAfter time today (now.sub login) = formOf time today (n - m) := by
  have hhalf := elapsed_iff hlogin hnow limit_of_halfDay
  have hsix := elapsed_iff hlogin hnow limit_of_sixDays
  have hlate : ((now.sub login).exceeds halfDay && time.yearDay != today.yearDay) = true ↔
      halfDay < n - m ∧ time.yearDay ≠ today.yearDay := by
    rw [Bool.and_eq_true, hhalf, bne_iff_ne]
  unfold formAfter formOf
  simp only [hlate, hsix]

/-- Between two whole seconds the form is chosen by their difference. -/
theorem column_eq_ok_iff (s : Text) :
    column zone login now = .ok s ↔
      (formOf time today (n - m) = .clock ∨ time.date.year < 0x80000000) ∧
        s = (formOf time today (n - m)).text time := by
  rw [column_eq_ok, hlogin.shown, hnow.shown, ← formAfter_eq_formOf hlogin hnow]
  constructor
  · rintro ⟨time', today', htime, htoday, hs⟩
    obtain rfl := Except.ok.inj htime
    obtain rfl := Except.ok.inj htoday
    exact hs
  · intro hs
    exact ⟨time, today, rfl, rfl, hs⟩

end

end Column

end LoginTime

end LoginReport
