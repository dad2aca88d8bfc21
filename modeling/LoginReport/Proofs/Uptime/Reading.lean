import LoginReport.Proofs.Results
import LoginReport.Proofs.Text.Decimal
import LoginReport.Uptime

set_option autoImplicit false

/-!
# Reading an uptime back

What the uptime line tells is a number of days, hours and minutes. The days are left out when there
are none, and so are the hours. Whatever is left out, the text is read in one way only, and the
reading ends where the count of the users begins.
-/

namespace LoginReport.Uptime

structure Span where
  days : Nat
  hours : Nat
  minutes : Nat
deriving DecidableEq, Repr

def Span.seconds (span : Span) : Nat := 86400 * span.days + 3600 * span.hours + 60 * span.minutes

/-- Blanks, and then the digits of the number, with zeros in front or without. -/
def IsNumber (s : Text) (n : Nat) : Prop :=
  ∃ blanks first digits, s = List.replicate blanks ' ' ++ first :: digits ∧
    (∀ c ∈ first :: digits, c.isDigit = true) ∧ Nat.ofDigitChars 10 (first :: digits) 0 = n

/-- How a time of less than a day is told: in minutes, or in hours and minutes. -/
inductive TellsTime : Text → Nat → Nat → Prop where
  | minutes {s : Text} {m : Nat} (hs : IsNumber s m) : TellsTime (s ++ " min, ".toList) 0 m
  | hours {s t : Text} {h m : Nat} (hs : IsNumber s h) (ht : IsNumber t m) :
      TellsTime (s ++ ':' :: t ++ [',', ' ']) h m

/-- How a span is told: with its days before the time, or without. -/
inductive Tells : Text → Span → Prop where
  | time {s : Text} {h m : Nat} (hs : TellsTime s h m) : Tells s ⟨0, h, m⟩
  | days {s t : Text} {d h m : Nat} (word : Text)
      (hword : word = "day".toList ∨ word = "days".toList) (hs : IsNumber s d)
      (ht : TellsTime t h m) :
      Tells (s ++ ' ' :: word ++ [',', ' '] ++ t) ⟨d, h, m⟩

/-! ## A reader -/

def readNumber (s : Text) : Nat × Text :=
  let digits := s.dropWhile (· == ' ')
  (Nat.ofDigitChars 10 (digits.takeWhile Char.isDigit) 0, digits.dropWhile Char.isDigit)

/-- The time of which the first number is read, from what follows that number. -/
def timeFrom (n : Nat) : Text → Option (Nat × Nat × Text)
  | ' ' :: 'm' :: 'i' :: 'n' :: ',' :: ' ' :: rest => some (0, n, rest)
  | ':' :: s =>
    match readNumber s with
    | (m, ',' :: ' ' :: rest) => some (n, m, rest)
    | _ => none
  | _ => none

def readTime (s : Text) : Option (Nat × Nat × Text) := timeFrom (readNumber s).1 (readNumber s).2

def withDays (d : Nat) (time : Option (Nat × Nat × Text)) : Option (Span × Text) :=
  time.map fun (h, m, rest) => (⟨d, h, m⟩, rest)

/-- The span of which the first number is read, from what follows that number. -/
def spanFrom (n : Nat) : Text → Option (Span × Text)
  | ' ' :: 'd' :: 'a' :: 'y' :: ',' :: ' ' :: time => withDays n (readTime time)
  | ' ' :: 'd' :: 'a' :: 'y' :: 's' :: ',' :: ' ' :: time => withDays n (readTime time)
  | behind => withDays 0 (timeFrom n behind)

/-- The span at the beginning of a text, and what follows it. -/
def read (s : Text) : Option (Span × Text) := spanFrom (readNumber s).1 (readNumber s).2

theorem readNumber_append {s : Text} {n : Nat} (h : IsNumber s n) {c : Char}
    (hc : c.isDigit = false) (rest : Text) : readNumber (s ++ c :: rest) = (n, c :: rest) := by
  obtain ⟨blanks, first, digits, rfl, hdigits, hvalue⟩ := h
  have hblanks : ∀ b ∈ List.replicate blanks ' ', (b == ' ') = true := by
    intro b hb
    rw [List.eq_of_mem_replicate hb]
    rfl
  have hfirst : (first == ' ') = false := by
    rw [beq_eq_false_iff_ne]
    rintro rfl
    exact absurd (hdigits ' ' List.mem_cons_self) (by decide)
  have hdrop : (List.replicate blanks ' ' ++ first :: digits ++ c :: rest).dropWhile (· == ' ') =
      first :: digits ++ c :: rest := by
    rw [List.append_assoc, List.dropWhile_append_of_pos hblanks, List.cons_append,
      List.dropWhile_cons_of_neg (by simp [hfirst])]
  unfold readNumber
  dsimp only
  rw [hdrop, List.takeWhile_append_of_pos hdigits, List.dropWhile_append_of_pos hdigits,
    List.takeWhile_cons_of_neg (by simp [hc]), List.dropWhile_cons_of_neg (by simp [hc]),
    List.append_nil, hvalue]

/-- A time begins with a number, behind which there are no days. -/
theorem TellsTime.begins {s : Text} {h m : Nat} (hs : TellsTime s h m) (rest : Text) :
    ∃ n behind, readNumber (s ++ rest) = (n, behind) ∧ timeFrom n behind = some (h, m, rest) ∧
      spanFrom n behind = withDays 0 (timeFrom n behind) := by
  cases hs with
  | @minutes s m hs =>
    refine ⟨m, ' ' :: ("min, ".toList ++ rest), ?_, rfl, rfl⟩
    rw [List.append_assoc]
    exact readNumber_append hs (by decide) _
  | @hours s t h m hs ht =>
    refine ⟨h, ':' :: (t ++ ',' :: ' ' :: rest), ?_, ?_, rfl⟩
    · rw [List.append_assoc, List.append_assoc]
      exact readNumber_append hs (by decide) _
    · rw [timeFrom, readNumber_append ht (by decide)]
      rfl

theorem Tells.read_append {s : Text} {span : Span} (hs : Tells s span) (rest : Text) :
    read (s ++ rest) = some (span, rest) := by
  cases hs with
  | time hs =>
    obtain ⟨n, behind, hnumber, htime, hspan⟩ := hs.begins rest
    rw [read, hnumber, hspan, htime]
    rfl
  | @days s t d h m word hword hs ht =>
    obtain ⟨n, behind, hnumber, htime, -⟩ := ht.begins rest
    have hdays : withDays d (readTime (t ++ rest)) = some (⟨d, h, m⟩, rest) := by
      rw [readTime, hnumber, htime]
      rfl
    have htext : s ++ ' ' :: word ++ [',', ' '] ++ t ++ rest =
        s ++ ' ' :: (word ++ ',' :: ' ' :: (t ++ rest)) := by simp
    rw [← hdays, read, htext, readNumber_append hs (by decide)]
    rcases hword with rfl | rfl <;> rfl

example : read "3 days,  2:04,  1 user".toList = some (⟨3, 2, 4⟩, " 1 user".toList) := by decide

/-- What a text tells is one span. -/
theorem Tells.unique {s : Text} {span other : Span} (h : Tells s span) (h' : Tells s other) :
    other = span := by
  have hread := h.read_append []
  rw [h'.read_append] at hread
  exact (Prod.mk.inj (Option.some.inj hread)).1

/-! ## The line -/

theorem isNumber_ofDigits (blanks zeros n : Nat) :
    IsNumber (List.replicate blanks ' ' ++ (List.replicate zeros '0' ++ Text.ofNat n)) n := by
  have hvalue := Text.ofDigitChars_zeros zeros n
  have hdigits : ∀ c ∈ List.replicate zeros '0' ++ Text.ofNat n, c.isDigit = true :=
    fun c => Text.isDigit_of_mem_zeros
  have hne : List.replicate zeros '0' ++ Text.ofNat n ≠ [] := by
    simp [Text.ofNat]
  obtain ⟨first, digits, hfirst⟩ := List.exists_cons_of_ne_nil hne
  rw [hfirst] at hvalue hdigits ⊢
  exact ⟨blanks, first, digits, rfl, hdigits, hvalue⟩

theorem isNumber_ofNat (n : Nat) : IsNumber (Text.ofNat n) n := isNumber_ofDigits 0 0 n

theorem isNumber_zeroTwo (n : Nat) : IsNumber (Text.zeroTwo n) n :=
  isNumber_ofDigits 0 (2 - (Text.ofNat n).length) n

theorem isNumber_blankTwo (n : Nat) : IsNumber (Text.blankTwo n) n :=
  isNumber_ofDigits (2 - (Text.ofNat n).length) 0 n

/-- The span of whole minutes in a number of seconds. -/
def Span.ofSeconds (seconds : Nat) : Span :=
  ⟨seconds / 86400, seconds / 60 / 60 % 24, seconds / 60 % 60⟩

theorem Span.ofSeconds_within (seconds : Nat) :
    (ofSeconds seconds).seconds ≤ seconds ∧ seconds < (ofSeconds seconds).seconds + 60 := by
  simp only [Span.seconds, ofSeconds]
  omega

theorem tellsTime_hoursMinutes (seconds : Nat) :
    TellsTime (hoursMinutes seconds) (Span.ofSeconds seconds).hours
      (Span.ofSeconds seconds).minutes := by
  have hhours : (seconds : Int) / 60 / 60 % 24 = (Span.ofSeconds seconds).hours := by
    simp [Span.ofSeconds]
  have hminutes : (seconds : Int) / 60 % 60 = (Span.ofSeconds seconds).minutes := by
    simp [Span.ofSeconds]
  unfold hoursMinutes
  dsimp only
  rw [hhours, hminutes]
  split
  · rename_i hzero
    rw [Int.natCast_eq_zero.mp hzero]
    exact .minutes (isNumber_ofNat _)
  · exact .hours (isNumber_blankTwo _) (isNumber_zeroTwo _)

theorem tells_duration (seconds : Nat) : Tells (duration seconds) (Span.ofSeconds seconds) := by
  have hdays : (seconds : Int) / 86400 = (Span.ofSeconds seconds).days := by
    simp [Span.ofSeconds]
  have htime := tellsTime_hoursMinutes seconds
  unfold duration days
  dsimp only
  rw [hdays]
  split
  · rename_i hzero
    have h := Tells.time htime
    rwa [← Int.natCast_eq_zero.mp hzero] at h
  · have hword (n : Int) : plural n "day" "days" = "day".toList ∨
        plural n "day" "days" = "days".toList := by
      unfold plural
      split
      · exact Or.inr rfl
      · exact Or.inl rfl
    exact .days _ (hword _) (isNumber_ofNat _) htime

/-- Only the whole minutes are told. -/
theorem duration_eq_iff (seconds other : Nat) :
    duration other = duration seconds ↔ other / 60 = seconds / 60 := by
  constructor
  · intro h
    have hother := tells_duration other
    rw [h] at hother
    have hspan := (tells_duration seconds).unique hother
    simp only [Span.ofSeconds, Span.mk.injEq] at hspan
    omega
  · intro h
    have hminutes : (other : Int) / 60 = (seconds : Int) / 60 := by omega
    have hdays : (other : Int) / 86400 = (seconds : Int) / 86400 := by omega
    unfold duration days hoursMinutes
    rw [hminutes, hdays]

open Binary64

/-- The line, with this in the place of what it tells of the uptime. -/
def lineWith (time : LocalTime) (users : Int) (average : LoadAverage) (told : Text) : Text :=
  clock time ++ " up ".toList ++ told ++ userCount users ++ load average

variable {zone users : Int} {now : Binary64} {time : LocalTime} {average : LoadAverage}
variable {negative : Bool} {units : Nat}

theorem lineWith_injective {told other : Text}
    (h : lineWith time users average told = lineWith time users average other) : told = other := by
  unfold lineWith at h
  exact List.append_cancel_left (List.append_cancel_right (List.append_cancel_right h))

theorem length_clock (h : LocalTime.ofInstant zone now = .ok time) : (clock time).length = 9 := by
  obtain ⟨seconds, -, hlocal⟩ := (bind_eq_ok _ _ _).mp h
  split at hlocal
  · obtain rfl := Except.ok.inj hlocal
    have hhour := LocalTime.hour_ofSeconds_lt (seconds + zone)
    have hminute := LocalTime.minute_ofSeconds_lt (seconds + zone)
    have hsecond : (LocalTime.ofSeconds (seconds + zone)).second < 60 := Nat.mod_lt _ (by decide)
    have htwo (n : Nat) (hn : n < 100) : (Text.zeroTwo n).length = 2 :=
      Text.length_zeroTwo n (by omega) (by omega)
    simp [clock, htwo _ (by omega : (LocalTime.ofSeconds (seconds + zone)).hour < 100),
      htwo _ (by omega : (LocalTime.ofSeconds (seconds + zone)).minute < 100),
      htwo _ (by omega : (LocalTime.ofSeconds (seconds + zone)).second < 100)]
  · cases hlocal

theorem drop_lineWith (h : LocalTime.ofInstant zone now = .ok time) (users : Int)
    (average : LoadAverage) (told : Text) :
    (lineWith time users average told).drop 13 = told ++ (userCount users ++ load average) := by
  have hbefore : (clock time ++ " up ".toList).length = 13 := by
    rw [List.length_append, length_clock h]
    rfl
  rw [lineWith, List.append_assoc, List.append_assoc, ← hbefore, List.drop_left]

theorem exists_seconds (h : 0 ≤ signedUnits negative units) :
    ∃ seconds : Nat, truncUnits negative units = seconds ∧ floorUnits negative units = seconds := by
  cases negative with
  | false => exact ⟨units / scale, rfl, (Int.natCast_ediv units scale).symm⟩
  | true =>
    have hzero : units = 0 := by
      simp only [signedUnits, if_true] at h
      omega
    have hnone : signedUnits true 0 = 0 := rfl
    rw [hzero, truncUnits, floorUnits, Nat.zero_div, hnone, Int.zero_ediv]
    exact ⟨0, rfl, rfl⟩

theorem line_eq {seconds : Nat} (hclock : LocalTime.ofInstant zone now = .ok time)
    (hseconds : truncUnits negative units = seconds) (users : Int) (average : LoadAverage) :
    line zone now (.finite negative units) users average =
      .ok (lineWith time users average (duration seconds)) := by
  have htrunc : (finite negative units).trunc = .ok (seconds : Int) := congrArg Except.ok hseconds
  rw [line, bind_mapError_ok hclock, bind_mapError_ok htrunc]
  rfl

/-- The line of an uptime is read back in one way only, and the reading ends where the users begin.
What is read are days, hours and minutes that leave less than a minute of the uptime, so that two
uptimes are told alike exactly when they have the same whole minutes. -/
theorem line_read_back (zone users : Int) (now : Binary64) (time : LocalTime)
    (average : LoadAverage) (negative : Bool) (units : Nat)
    (hclock : LocalTime.ofInstant zone now = .ok time) (hup : 0 ≤ signedUnits negative units) :
    ∃ told span,
      line zone now (.finite negative units) users average =
        .ok (lineWith time users average told) ∧
      Tells told span ∧ (∀ other, Tells told other → other = span) ∧
      read ((lineWith time users average told).drop 13) =
        some (span, userCount users ++ load average) ∧
      span.hours < 24 ∧ span.minutes < 60 ∧
      span.seconds ≤ floorUnits negative units ∧
      floorUnits negative units < span.seconds + 60 ∧
      ∀ zone' users' now' time' average' negative' units' told',
        LocalTime.ofInstant zone' now' = .ok time' → 0 ≤ signedUnits negative' units' →
        line zone' now' (.finite negative' units') users' average' =
          .ok (lineWith time' users' average' told') →
        (told' = told ↔ floorUnits negative' units' / 60 = floorUnits negative units / 60) := by
  obtain ⟨seconds, htrunc, hfloor⟩ := exists_seconds hup
  have htells := tells_duration seconds
  have hwithin := Span.ofSeconds_within seconds
  refine ⟨duration seconds, Span.ofSeconds seconds, line_eq hclock htrunc users average, htells,
    fun other => htells.unique, ?_, Nat.mod_lt _ (by decide), Nat.mod_lt _ (by decide), ?_, ?_, ?_⟩
  · rw [drop_lineWith hclock, htells.read_append]
  · omega
  · omega
  · intro zone' users' now' time' average' negative' units' told' hclock' hup' hline
    obtain ⟨seconds', htrunc', hfloor'⟩ := exists_seconds hup'
    rw [line_eq hclock' htrunc'] at hline
    obtain rfl := lineWith_injective (Except.ok.inj hline)
    rw [duration_eq_iff, hfloor, hfloor']
    omega

/-- A minute over an hour over a day, and a second. -/
theorem line_read_back_of_a_day :
    ∃ told, line 0 .zero (.finite false (90061 * scale)) 2 ⟨.zero, .zero, .zero⟩ =
        .ok (lineWith (LocalTime.ofSeconds 0) 2 ⟨.zero, .zero, .zero⟩ told) ∧
      ∀ other, Tells told other ↔ other = ⟨1, 1, 1⟩ := by
  have hclock : LocalTime.ofInstant 0 .zero = .ok (LocalTime.ofSeconds 0) := by decide +kernel
  obtain ⟨told, span, hline, htells, hunique, -, hhours, hminutes, hlow, hhigh, -⟩ :=
    line_read_back 0 2 .zero (LocalTime.ofSeconds 0) ⟨.zero, .zero, .zero⟩ false (90061 * scale)
      hclock (signedUnits_nonneg _)
  have hfloor : floorUnits false (90061 * scale) = 90061 := by decide +kernel
  have hspan : span = ⟨1, 1, 1⟩ := by
    obtain ⟨d, h, m⟩ := span
    simp only [hfloor, Span.seconds] at hhours hminutes hlow hhigh
    rw [Span.mk.injEq]
    omega
  exact ⟨told, hline, fun other => ⟨fun h => (hunique other h).trans hspan,
    fun h => h ▸ hspan ▸ htells⟩⟩

end LoginReport.Uptime
