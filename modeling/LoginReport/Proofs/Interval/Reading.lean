import LoginReport.Interval
import LoginReport.Proofs.Text.Decimal
import Mathlib.Data.List.Basic
import Mathlib.Tactic.SplitIfs

set_option autoImplicit false

/-!
# Reading intervals back

An interval shows one number or two with a separator between them. The first character that is
neither a digit nor a blank tells how to read it, so two intervals look alike only when they show
the same numbers in the same way.
-/

namespace LoginReport.Interval

/-- What an interval shows. -/
inductive Reading where
  | unknown
  | blank
  | days (count : Nat)
  | clock (major minor : Nat) (mark : Char)
  | seconds (whole hundredths : Nat)
deriving DecidableEq, Repr

/-- The first character that is neither a digit nor a blank. -/
def separator? (s : Text) : Option Char := s.find? fun c => !c.isDigit && c != ' '

namespace Reading

def text : Reading → Text
  | unknown => Interval.unknown
  | blank => List.replicate 7 ' '
  | days count => ' ' :: Text.blankTwo count ++ "days".toList
  | clock major minor mark => Interval.clock major minor mark
  | seconds whole hundredths =>
    ' ' :: Text.blankTwo whole ++ '.' :: Text.zeroTwo hundredths ++ ['s']

def separator? : Reading → Option Char
  | unknown => some '?'
  | blank => none
  | days _ => some 'd'
  | clock _ _ _ => some ':'
  | seconds _ _ => some '.'

theorem separator?_number (n : Nat) (rest : Text) :
    Interval.separator? (' ' :: Text.blankTwo n ++ rest) = Interval.separator? rest := by
  have hnumber : ∀ c ∈ ' ' :: Text.blankTwo n, ¬(!c.isDigit && c != ' ') = true := by
    intro c hc
    rcases List.mem_cons.mp hc with rfl | hc
    · decide
    · rcases Text.blank_or_isDigit_of_mem_blankTwo hc with rfl | hdigit
      · decide
      · simp [hdigit]
  unfold Interval.separator?
  rw [List.find?_append, List.find?_eq_none.mpr hnumber, Option.none_or]

theorem separator?_text (reading : Reading) :
    Interval.separator? reading.text = reading.separator? := by
  cases reading with
  | unknown => decide
  | blank => decide
  | days count => exact separator?_number count _
  | clock major minor mark =>
    rw [text, Interval.clock, List.append_assoc, separator?_number]
    rfl
  | seconds whole hundredths =>
    rw [text, List.append_assoc, separator?_number]
    rfl

theorem not_mem_number {c : Char} (hdigit : c.isDigit = false) (hblank : c ≠ ' ') (n : Nat) :
    c ∉ ' ' :: Text.blankTwo n := by
  intro hc
  rcases List.mem_cons.mp hc with rfl | hc
  · exact hblank rfl
  · rcases Text.blank_or_isDigit_of_mem_blankTwo hc with rfl | hyes
    · exact hblank rfl
    · rw [hdigit] at hyes
      cases hyes

/-- A separator that is neither digit nor blank parts two numbers. -/
theorem numbers_inj {separator : Char} (hdigit : separator.isDigit = false)
    (hblank : separator ≠ ' ') {a b a' b' : Nat} {mark mark' : Char}
    (h : ' ' :: Text.blankTwo a ++ separator :: Text.zeroTwo b ++ [mark] =
      ' ' :: Text.blankTwo a' ++ separator :: Text.zeroTwo b' ++ [mark']) :
    a = a' ∧ b = b' ∧ mark = mark' := by
  obtain ⟨hnumbers, hmark⟩ := List.append_inj' h rfl
  have hminor : separator ∉ Text.zeroTwo b := by
    intro hmem
    rw [Text.isDigit_of_mem_zeroTwo hmem] at hdigit
    cases hdigit
  obtain ⟨hmajor, -, hrest⟩ :=
    (List.append_cons_inj_of_notMem (not_mem_number hdigit hblank a) hminor).mp hnumbers
  exact ⟨Text.blankTwo_injective (List.cons.inj hmajor).2, Text.zeroTwo_injective hrest,
    (List.cons.inj hmark).1⟩

theorem text_injective : Function.Injective text := by
  intro reading other h
  have hseparator : reading.separator? = other.separator? := by
    rw [← separator?_text, h, separator?_text]
  cases reading with
  | unknown =>
    cases other with
    | unknown => rfl
    | _ => cases hseparator
  | blank =>
    cases other with
    | blank => rfl
    | _ => cases hseparator
  | days count =>
    cases other with
    | days count' =>
      have hcount := (List.cons.inj (List.append_inj_left' h rfl)).2
      rw [Text.blankTwo_injective hcount]
    | _ => cases hseparator
  | clock major minor mark =>
    cases other with
    | clock major' minor' mark' =>
      obtain ⟨rfl, rfl, rfl⟩ := numbers_inj (by decide) (by decide) h
      rfl
    | _ => cases hseparator
  | seconds whole hundredths =>
    cases other with
    | seconds whole' hundredths' =>
      obtain ⟨rfl, rfl, -⟩ := numbers_inj (by decide) (by decide) h
      rfl
    | _ => cases hseparator

end Reading

/-- How much time an interval is told to: by hundredths of seconds, by seconds, by minutes or by
days. -/
inductive Band where
  | seconds
  | minutes
  | hours
  | days
deriving DecidableEq, Repr

/-- The band of a number of seconds. -/
def band (elapsed : Int) : Band :=
  if elapsed ≤ minute then .seconds
  else if elapsed < hour then .minutes
  else if elapsed < 2 * day then .hours
  else .days

/-- The number that an interval of the band tells. -/
def Band.count (band : Band) (elapsed : Int) : Int :=
  match band with
  | .seconds => elapsed
  | .minutes => elapsed
  | .hours => elapsed / minute
  | .days => elapsed / day

/-- What an interval of whole seconds shows. -/
def reading (elapsed hundredths : Nat) (oldStyle : Bool) : Reading :=
  match band elapsed with
  | .seconds => if oldStyle then .blank else .seconds elapsed hundredths
  | .minutes => .clock (elapsed / 60) (elapsed % 60) (if oldStyle then 'm' else ' ')
  | .hours => .clock (elapsed / 3600) (elapsed / 60 % 60) (if oldStyle then ' ' else 'm')
  | .days => .days (elapsed / 86400)

theorem text_reading (elapsed hundredths : Nat) (oldStyle : Bool) :
    (reading elapsed hundredths oldStyle).text = text elapsed hundredths oldStyle := by
  unfold text reading band minute hour day
  split_ifs <;> first | rfl | omega

theorem text_of_negative {elapsed : Int} (h : elapsed < 0) (hundredths : Int) (oldStyle : Bool) :
    text elapsed hundredths oldStyle = unknown := if_pos h

theorem reading_eq_iff (elapsed hundredths other hundredths' : Nat) (oldStyle : Bool) :
    reading elapsed hundredths oldStyle = reading other hundredths' oldStyle ↔
      band elapsed = band other ∧
        (band elapsed = .seconds ∧ oldStyle = true ∨
          (band elapsed).count elapsed = (band other).count other ∧
            (band elapsed = .seconds → hundredths = hundredths')) := by
  unfold reading
  cases band elapsed with
  | seconds =>
    cases band other with
    | seconds =>
      cases oldStyle with
      | false =>
        simp only [Band.count, Bool.false_eq_true, if_false, Reading.seconds.injEq, and_false,
          false_or, true_and, forall_const]
        omega
      | true => simp
    | _ => cases oldStyle <;> simp
  | minutes =>
    cases band other with
    | seconds => cases oldStyle <;> simp
    | minutes =>
      simp [Band.count]
      omega
    | hours => cases oldStyle <;> simp
    | days => simp
  | hours =>
    cases band other with
    | seconds => cases oldStyle <;> simp
    | minutes => cases oldStyle <;> simp
    | hours =>
      simp [Band.count, minute]
      omega
    | days => simp
  | days =>
    cases band other with
    | seconds => cases oldStyle <;> simp
    | days =>
      simp [Band.count, day]
      omega
    | _ => simp

theorem text_eq_text_iff (elapsed hundredths other hundredths' : Nat) (oldStyle : Bool) :
    text elapsed hundredths oldStyle = text other hundredths' oldStyle ↔
      band elapsed = band other ∧
        (band elapsed = .seconds ∧ oldStyle = true ∨
          (band elapsed).count elapsed = (band other).count other ∧
            (band elapsed = .seconds → hundredths = hundredths')) := by
  rw [← text_reading, ← text_reading, Reading.text_injective.eq_iff, reading_eq_iff]

theorem text_ne_unknown (elapsed hundredths : Nat) (oldStyle : Bool) :
    text elapsed hundredths oldStyle ≠ unknown := by
  intro h
  rw [← text_reading] at h
  have hreading : reading elapsed hundredths oldStyle = .unknown := Reading.text_injective h
  unfold reading at hreading
  cases hband : band elapsed with
  | seconds => cases oldStyle <;> simp [hband] at hreading
  | _ => simp [hband] at hreading

/-- Intervals look alike exactly when they lie in the same band and tell the same number, with the
same hundredths where these are shown. In the old style all intervals of at most a minute look
alike, and none looks like one that is not known. -/
theorem texts_agree_iff (elapsed hundredths other hundredths' : Nat) :
    (text elapsed hundredths false = text other hundredths' false ↔
        band elapsed = band other ∧ (band elapsed).count elapsed = (band other).count other ∧
          (band elapsed = .seconds → hundredths = hundredths')) ∧
      (text elapsed hundredths true = text other hundredths' true ↔
        band elapsed = band other ∧
          (band elapsed = .seconds ∨ (band elapsed).count elapsed = (band other).count other)) ∧
      (band elapsed = .seconds → text elapsed hundredths true = List.replicate 7 ' ') ∧
      ∀ (before centiseconds : Int) (oldStyle style : Bool), before < 0 →
        text before centiseconds style = "   ?   ".toList ∧
          text elapsed hundredths oldStyle ≠ text before centiseconds style := by
  refine ⟨?_, ?_, ?_, ?_⟩
  · rw [text_eq_text_iff]
    simp
  · rw [text_eq_text_iff]
    by_cases hband : band elapsed = .seconds
    · simp [hband]
    · simp [hband]
  · intro hband
    rw [← text_reading, reading, hband]
    rfl
  · intro before centiseconds oldStyle style hbefore
    rw [text_of_negative hbefore]
    exact ⟨rfl, text_ne_unknown elapsed hundredths oldStyle⟩

/-- Hours and minutes hide the seconds, in both styles. -/
theorem texts_agree_iff_within_a_minute :
    text 4000 7 false = text 4019 30 false ∧ text 4000 7 true = text 4019 30 true ∧
      text 4000 7 false ≠ text 4020 7 false ∧ text (-1) 0 true = "   ?   ".toList ∧
      text 4000 7 false ≠ text (-1) 0 true := by
  obtain ⟨hplain, hold, -, hnegative⟩ := texts_agree_iff 4000 7 4019 30
  obtain ⟨hunknown, hknown⟩ := hnegative (-1) 0 false true (by decide)
  exact ⟨hplain.mpr (by decide), hold.mpr (by decide),
    fun h => absurd ((texts_agree_iff 4000 7 4020 7).1.mp h) (by decide), hunknown, hknown⟩

end LoginReport.Interval
