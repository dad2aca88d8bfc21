import LoginReport.Time.Calendar
import Mathlib.Algebra.Ring.Nat
import Mathlib.Data.List.GetD
import Mathlib.Logic.Function.Iterate

set_option autoImplicit false

/-!
# Days of the calendar

The date after a date is told by the lengths of the months and the rule for leap years. Counting
days and turning them into dates agrees with it: the next day always has the next date. So no two
days have the same date, and days less than a week apart have different weekdays.
-/

namespace LoginReport

/-- The date of the day after. -/
def CalendarDate.next (date : CalendarDate) : CalendarDate :=
  if date.day < (Calendar.monthLengths date.year).getD (date.month - 1) 0 then
    ⟨date.year, date.month, date.day + 1⟩
  else if date.month < 12 then ⟨date.year, date.month + 1, 1⟩
  else ⟨date.year + 1, 1, 1⟩

namespace Calendar

def yearLength (year : Int) : Nat := if isLeap year then 366 else 365

theorem monthLengths_sum (year : Int) : (monthLengths year).sum = yearLength year := by
  unfold monthLengths yearLength
  cases isLeap year <;> rfl

/-! ## Years -/

theorem isLeap_iff (year : Int) :
    isLeap year = true ↔ year % 4 = 0 ∧ (year % 100 ≠ 0 ∨ year % 400 = 0) := by
  simp [isLeap]

theorem daysBefore_succ (year : Int) :
    daysBefore (year + 1) = daysBefore year + yearLength year := by
  unfold daysBefore yearLength
  dsimp only
  split
  · rename_i hleap
    have := (isLeap_iff year).mp hleap
    omega
  · rename_i hleap
    have := (not_congr (isLeap_iff year)).mp hleap
    omega

theorem daysBefore_mono {a b : Int} (h : a ≤ b) : daysBefore a ≤ daysBefore b := by
  unfold daysBefore
  dsimp only
  omega

theorem day_lt_yearLength (days : Int) : (yearDay days).day < yearLength (yearDay days).year := by
  unfold yearLength
  split
  · exact yearDay_day_lt days
  · rename_i hleap
    have hcommon := (not_congr (isLeap_iff _)).mp hleap
    have hcycle : (days % 146097).toNat < 146097 := by omega
    simp only [yearDay] at hcommon ⊢
    generalize days / 146097 = cycle at hcommon
    generalize (days % 146097).toNat = inCycle at hcommon hcycle ⊢
    omega

/-- A day lies in one year only. -/
theorem yearDay_eq {days : Int} {place : YearDay}
    (hdays : daysBefore place.year + place.day = days)
    (hday : place.day < yearLength place.year) : yearDay days = place := by
  have hcount := daysBefore_yearDay days
  have hlength := day_lt_yearLength days
  generalize yearDay days = found at hcount hlength ⊢
  have hafter := daysBefore_succ place.year
  have hafterFound := daysBefore_succ found.year
  have hyear : found.year = place.year := by
    rcases Int.lt_trichotomy found.year place.year with hlt | heq | hgt
    · have := daysBefore_mono (by omega : found.year + 1 ≤ place.year)
      omega
    · exact heq
    · have := daysBefore_mono (by omega : place.year + 1 ≤ found.year)
      omega
  obtain ⟨year, day⟩ := place
  dsimp only at hdays hyear hafter
  subst hyear
  rw [(by omega : day = found.day)]

theorem yearDay_succ_of_lt {days : Int}
    (h : (yearDay days).day + 1 < yearLength (yearDay days).year) :
    yearDay (days + 1) = ⟨(yearDay days).year, (yearDay days).day + 1⟩ := by
  have hcount := daysBefore_yearDay days
  refine yearDay_eq ?_ h
  dsimp only
  omega

/-- The last day of a year is followed by the first of the next. -/
theorem yearDay_succ_of_last {days : Int}
    (h : (yearDay days).day + 1 = yearLength (yearDay days).year) :
    yearDay (days + 1) = ⟨(yearDay days).year + 1, 0⟩ := by
  have hcount := daysBefore_yearDay days
  have hafter := daysBefore_succ (yearDay days).year
  refine yearDay_eq ?_ ?_
  · dsimp only
    omega
  · dsimp only
    unfold yearLength
    split <;> omega

/-! ## Months -/

theorem monthDay_of_lt {month day length : Nat} {rest : List Nat} (h : day < length) :
    monthDay month day (length :: rest) = (month, day + 1) := if_pos h

theorem monthDay_of_le {month day length : Nat} {rest : List Nat} (h : length ≤ day) :
    monthDay month day (length :: rest) = monthDay (month + 1) (day - length) rest :=
  if_neg (Nat.not_lt.mpr h)

theorem le_monthDay (lengths : List Nat) (month day : Nat) :
    month ≤ (monthDay month day lengths).1 := by
  induction lengths generalizing month day with
  | nil => exact Nat.le_refl month
  | cons length rest ih =>
    rcases Nat.lt_or_ge day length with h | h
    · exact Nat.le_of_eq (congrArg Prod.fst (monthDay_of_lt h)).symm
    · rw [monthDay_of_le h]
      exact Nat.le_of_succ_le (ih (month + 1) (day - length))

theorem monthDay_lt (lengths : List Nat) (month day : Nat) (h : day < lengths.sum) :
    (monthDay month day lengths).1 < month + lengths.length := by
  induction lengths generalizing month day with
  | nil => cases h
  | cons length rest ih =>
    rw [List.sum_cons] at h
    rw [List.length_cons]
    rcases Nat.lt_or_ge day length with hday | hday
    · rw [monthDay_of_lt hday]
      dsimp only
      omega
    · have := ih (month + 1) (day - length) (by omega)
      rw [monthDay_of_le hday]
      omega

theorem monthDay_day_pos (lengths : List Nat) (month day : Nat) :
    0 < (monthDay month day lengths).2 := by
  induction lengths generalizing month day with
  | nil => exact Nat.succ_pos day
  | cons length rest ih =>
    rcases Nat.lt_or_ge day length with h | h
    · rw [monthDay_of_lt h]
      exact Nat.succ_pos day
    · rw [monthDay_of_le h]
      exact ih (month + 1) (day - length)

/-- A day of one month and one of a later month differ in their months. -/
theorem monthDay_ne_of_lt_of_le {length a b : Nat} (rest : List Nat) (month : Nat) (ha : a < length)
    (hb : length ≤ b) :
    monthDay month a (length :: rest) ≠ monthDay month b (length :: rest) := by
  intro heq
  have hmonth := le_monthDay rest (month + 1) (b - length)
  rw [← monthDay_of_le hb, ← heq, monthDay_of_lt ha] at hmonth
  exact Nat.not_succ_le_self month hmonth

theorem monthDay_inj {lengths : List Nat} {month a b : Nat}
    (h : monthDay month a lengths = monthDay month b lengths) : a = b := by
  induction lengths generalizing month a b with
  | nil => exact Nat.succ.inj (Prod.mk.inj h).2
  | cons length rest ih =>
    rcases Nat.lt_or_ge a length with ha | ha
    · rcases Nat.lt_or_ge b length with hb | hb
      · rw [monthDay_of_lt ha, monthDay_of_lt hb] at h
        exact Nat.succ.inj (Prod.mk.inj h).2
      · exact absurd h (monthDay_ne_of_lt_of_le rest month ha hb)
    · rcases Nat.lt_or_ge b length with hb | hb
      · exact absurd h.symm (monthDay_ne_of_lt_of_le rest month hb ha)
      · rw [monthDay_of_le ha, monthDay_of_le hb] at h
        have := ih h
        omega

/-- The number of the next day, and of its month, where months have days. -/
theorem monthDay_succ (lengths : List Nat) (month day : Nat) (hpos : ∀ length ∈ lengths, 0 < length)
    (hday : day < lengths.sum) :
    monthDay month (day + 1) lengths =
      if (monthDay month day lengths).2 <
          lengths.getD ((monthDay month day lengths).1 - month) 0 then
        ((monthDay month day lengths).1, (monthDay month day lengths).2 + 1)
      else ((monthDay month day lengths).1 + 1, 1) := by
  induction lengths generalizing month day with
  | nil => cases hday
  | cons length rest ih =>
    rw [List.sum_cons] at hday
    have hrest : ∀ length ∈ rest, 0 < length := fun l hl => hpos l (List.mem_cons_of_mem _ hl)
    rcases Nat.lt_or_ge day length with h | h
    · rw [monthDay_of_lt h, Nat.sub_self, List.getD_cons_zero]
      rcases Nat.lt_or_ge (day + 1) length with hnext | hnext
      · rw [monthDay_of_lt hnext, if_pos hnext]
      · rw [monthDay_of_le hnext, if_neg (Nat.not_lt.mpr hnext),
          (by omega : day + 1 - length = 0)]
        cases rest with
        | nil => rfl
        | cons first rest => exact monthDay_of_lt (hrest first List.mem_cons_self)
    · have hmonth := le_monthDay rest (month + 1) (day - length)
      rw [monthDay_of_le h, monthDay_of_le (by omega),
        (by omega : day + 1 - length = day - length + 1),
        ih (month + 1) (day - length) hrest (by omega),
        (by omega : (monthDay (month + 1) (day - length) rest).1 - month =
          (monthDay (month + 1) (day - length) rest).1 - (month + 1) + 1), List.getD_cons_succ]

theorem monthDay_sum (lengths : List Nat) (month : Nat) :
    monthDay month lengths.sum lengths = (month + lengths.length, 1) := by
  induction lengths generalizing month with
  | nil => rfl
  | cons length rest ih =>
    rw [List.sum_cons, monthDay_of_le (Nat.le_add_right _ _), Nat.add_sub_cancel_left, ih,
      List.length_cons]
    congr 1
    omega

/-! ## Dates -/

theorem date_eq (days : Int) :
    date days = ⟨(yearDay days).year,
      (monthDay 1 (yearDay days).day (monthLengths (yearDay days).year)).1,
      (monthDay 1 (yearDay days).day (monthLengths (yearDay days).year)).2⟩ := rfl

theorem monthLengths_pos (year : Int) : ∀ length ∈ monthLengths year, 0 < length := by
  unfold monthLengths
  cases isLeap year <;> decide

section NextDay

-- The lengths of the months stay a variable here, so that no proof runs the search for a month.
variable {lengths : List Nat} {year : Int} {day : Nat} (hyear : monthLengths year = lengths)
include hyear

/-- Within a year, the next day has the next number or begins the next month. -/
theorem next_of_lt (h : day + 1 < lengths.sum) :
    (CalendarDate.mk year (monthDay 1 day lengths).1 (monthDay 1 day lengths).2).next =
      ⟨year, (monthDay 1 (day + 1) lengths).1, (monthDay 1 (day + 1) lengths).2⟩ := by
  have hmonth := monthDay_lt lengths 1 (day + 1) h
  have hnext := monthDay_succ lengths 1 day (hyear ▸ monthLengths_pos year) (by omega)
  have htwelve : lengths.length = 12 := by
    rw [← hyear]
    rfl
  unfold CalendarDate.next
  dsimp only
  rw [hyear]
  rw [hnext] at hmonth ⊢
  split
  · rfl
  · rename_i hlast
    rw [if_neg hlast, htwelve] at hmonth
    dsimp only at hmonth
    rw [if_pos (by omega)]

/-- The month after the last day is the thirteenth, so the day ends the twelfth. -/
theorem next_of_last (h : day + 1 = lengths.sum) :
    (CalendarDate.mk year (monthDay 1 day lengths).1 (monthDay 1 day lengths).2).next =
      ⟨year + 1, 1, 1⟩ := by
  have hpast := monthDay_sum lengths 1
  have hnext := monthDay_succ lengths 1 day (hyear ▸ monthLengths_pos year) (by omega)
  have hday := monthDay_day_pos lengths 1 day
  have htwelve : lengths.length = 12 := by
    rw [← hyear]
    rfl
  rw [← h, hnext, htwelve] at hpast
  unfold CalendarDate.next
  dsimp only
  rw [hyear]
  split at hpast
  · have hone := (Prod.mk.inj hpast).2
    omega
  · rename_i hlast
    have hmonth := (Prod.mk.inj hpast).1
    rw [if_neg hlast, if_neg (by omega)]

end NextDay

theorem date_succ (days : Int) : date (days + 1) = (date days).next := by
  have hlength := day_lt_yearLength days
  rw [date_eq, date_eq]
  rcases Nat.lt_or_ge ((yearDay days).day + 1) (yearLength (yearDay days).year) with h | h
  · rw [yearDay_succ_of_lt h]
    exact (next_of_lt rfl (by rwa [monthLengths_sum])).symm
  · rw [yearDay_succ_of_last (by omega)]
    exact (next_of_last rfl (by rw [monthLengths_sum]; omega)).symm

theorem date_add (days : Int) (k : Nat) : date (days + k) = CalendarDate.next^[k] (date days) := by
  induction k with
  | zero => rw [Int.natCast_zero, Int.add_zero, Function.iterate_zero_apply]
  | succ k ih =>
    rw [Int.natCast_succ, ← Int.add_assoc, date_succ, ih, Function.iterate_succ_apply']

theorem date_injective : Function.Injective date := by
  intro a b h
  rw [date_eq, date_eq, CalendarDate.mk.injEq] at h
  obtain ⟨hyear, hmonth, hday⟩ := h
  rw [hyear] at hmonth hday
  have hpassed : (yearDay a).day = (yearDay b).day := monthDay_inj (Prod.ext hmonth hday)
  rw [← daysBefore_yearDay a, ← daysBefore_yearDay b, hyear, hpassed]

/-! ## Names -/

/-- What holds of every name and of the default holds of the name at any place. -/
theorem getD_of_forall {P : String → Prop} {names : List String} {default : String}
    (hdefault : P default) (h : ∀ name ∈ names, P name) (i : Nat) : P (names.getD i default) := by
  by_cases hi : i < names.length
  · rw [List.getD_eq_getElem _ _ hi]
    exact h _ (List.getElem_mem hi)
  · rw [List.getD_eq_default _ _ (by omega)]
    exact hdefault

/-! ## Weekdays -/

/-- A weekday names one day of a week. -/
theorem eq_of_weekday_eq {a b : Int} (last : Int) (ha : last - 7 < a ∧ a ≤ last)
    (hb : last - 7 < b ∧ b ≤ last) (h : weekday a = weekday b) : a = b := by
  unfold weekday at h
  omega

theorem weekdayName_inj {a b : Nat} (ha : a < 7) (hb : b < 7)
    (h : weekdayName a = weekdayName b) : a = b := by
  have hnames : ∀ a < 7, ∀ b < 7, weekdayName a = weekdayName b → a = b := by decide
  exact hnames a ha b hb h

theorem length_weekdayName {weekday : Nat} (h : weekday < 7) :
    (weekdayName weekday).length = 3 := by
  have hnames : ∀ weekday < 7, (weekdayName weekday).length = 3 := by decide
  exact hnames weekday h

end Calendar

end LoginReport
