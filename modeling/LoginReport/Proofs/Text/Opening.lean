import LoginReport.Proofs.Text.Decimal
import LoginReport.Proofs.Text.Leading

set_option autoImplicit false

/-!
# Numerals at the beginning of a text

A text opens with a numeral where it begins with blanks, a sign or none, and digits of any scripts.
The leading integer is that of the longest numeral the text opens with, and zero where it opens with
none. So a printed integer is read back from behind blanks, whatever follows it but a digit.
-/

namespace LoginReport

namespace Text

/-- No zero has a blank among its ten digits. -/
theorem not_isBlank_of_isDigit {c : Char} (h : isDigit c = true) : isBlank c = false := by
  have hzeros : ∀ start ∈ zeros, 0x20 < start ∧ start + 10 ≤ 0x85 ∨
      0xa0 < start ∧ start + 10 ≤ 0x1680 ∨ 0x1680 < start ∧ start + 10 ≤ 0x2000 ∨
        0x3000 < start := by decide
  simp only [isDigit, digitValue?, Option.isSome_map, List.find?_isSome, Bool.and_eq_true,
    decide_eq_true_eq] at h
  obtain ⟨start, hmem, hstart, hend⟩ := h
  have hplace := hzeros start hmem
  simp only [isBlank, Bool.or_eq_false_iff, Bool.and_eq_false_iff, decide_eq_false_iff_not,
    beq_eq_false_iff_ne]
  omega

/-- The digits in which numbers are printed are those of the first script. -/
theorem digitValue?_of_ascii {c : Char} (h : c.isDigit = true) :
    digitValue? c = some (c.toNat - '0'.toNat) := by
  have hrange : 0x30 ≤ c.toNat ∧ c.toNat < 0x30 + 10 := by
    simp only [Char.isDigit, Bool.and_eq_true, decide_eq_true_eq, UInt32.le_iff_toNat_le] at h
    have h0 : '0'.val.toNat = 0x30 := rfl
    have h9 : '9'.val.toNat = 0x39 := rfl
    change 0x30 ≤ c.val.toNat ∧ c.val.toNat < 0x30 + 10
    omega
  simp [digitValue?, zeros, hrange]

theorem isDigit_of_ascii {c : Char} (h : c.isDigit = true) : isDigit c = true := by
  rw [isDigit, digitValue?_of_ascii h]
  rfl

end Text

namespace Numeral

theorem digitsValue_ofNat (n : Nat) : digitsValue (Text.ofNat n) = n := by
  have hvalues : digitValues (Text.ofNat n) = (Text.ofNat n).map fun c => c.toNat - '0'.toNat := by
    apply List.map_congr_left
    intro c hc
    rw [Text.digitValue?_of_ascii (Text.isDigit_of_mem_ofNat hc)]
    rfl
  calc
    digitsValue (Text.ofNat n) = valueOf (digitValues (Text.ofNat n)) :=
      (Decimal.valueOf_eq_ofDigits _).symm
    _ = Nat.ofDigitChars 10 (Text.ofNat n) 0 := by
      rw [hvalues, valueOf, List.foldl_map, Nat.ofDigitChars_eq_foldl]
    _ = n := Nat.ofDigitChars_ten_toDigits

/-- Blanks, a sign or none, and at least one digit at the beginning of a text. -/
structure Opening (s : Text) where
  blanks : Text
  sign : Sign
  digits : Text
  rest : Text
  parts : s = blanks ++ (sign.text ++ (digits ++ rest))
  blanks_isBlank : ∀ c ∈ blanks, Text.isBlank c = true
  digits_ne_nil : digits ≠ []
  digits_isDigit : ∀ c ∈ digits, Text.isDigit c = true

namespace Opening

variable {s : Text}

def numeral (opening : Opening s) : Text := opening.sign.text ++ opening.digits

def value (opening : Opening s) : Int := opening.sign.apply (digitsValue opening.digits)

/-- The text opens with no more digits than these. -/
def IsLongest (opening : Opening s) : Prop :=
  ∀ other : Opening s, other.digits.length ≤ opening.digits.length

/-- Neither a sign nor a digit is a blank. -/
theorem dropWhile_isBlank (opening : Opening s) :
    s.dropWhile Text.isBlank = opening.sign.text ++ (opening.digits ++ opening.rest) := by
  obtain ⟨first, more, hdigits⟩ := List.exists_cons_of_ne_nil opening.digits_ne_nil
  have hfirst : Text.isBlank first = false :=
    Text.not_isBlank_of_isDigit (opening.digits_isDigit first (by simp [hdigits]))
  have hdrop : s.dropWhile Text.isBlank =
      (opening.sign.text ++ (opening.digits ++ opening.rest)).dropWhile Text.isBlank :=
    (congrArg (List.dropWhile Text.isBlank) opening.parts).trans
      (List.dropWhile_append_of_pos opening.blanks_isBlank)
  rw [hdrop, hdigits]
  cases opening.sign with
  | none => exact List.dropWhile_cons_of_neg (by simp [hfirst])
  | plus => rfl
  | minus => rfl

/-- No digit is a sign. -/
theorem behindSign_eq (opening : Opening s) :
    behindSign s = opening.digits ++ opening.rest := by
  obtain ⟨first, more, hdigits⟩ := List.exists_cons_of_ne_nil opening.digits_ne_nil
  have hfirst : Text.isDigit first = true := opening.digits_isDigit first (by simp [hdigits])
  rw [behindSign, opening.dropWhile_isBlank, hdigits]
  cases opening.sign with
  | none =>
    refine if_neg ?_
    rintro (hsign | hsign)
    · obtain rfl := Option.some.inj hsign
      exact absurd hfirst (by decide)
    · obtain rfl := Option.some.inj hsign
      exact absurd hfirst (by decide)
  | plus => rfl
  | minus => rfl

theorem leadingDigits_eq (opening : Opening s) :
    leadingDigits s = opening.digits ++ opening.rest.takeWhile Text.isDigit := by
  rw [leadingDigits, opening.behindSign_eq, List.takeWhile_append_of_pos opening.digits_isDigit]

theorem length_digits_le (opening : Opening s) :
    opening.digits.length ≤ (leadingDigits s).length := by
  rw [opening.leadingDigits_eq, List.length_append]
  exact Nat.le_add_right _ _

theorem leadingDigits_ne_nil (opening : Opening s) : leadingDigits s ≠ [] := by
  rw [opening.leadingDigits_eq]
  exact List.append_ne_nil_of_left_ne_nil opening.digits_ne_nil _

theorem sign_eq (opening : Opening s) {sign : Sign}
    (h : s.dropWhile Text.isBlank = sign.text ++ behindSign s) : sign = opening.sign := by
  rw [opening.dropWhile_isBlank, opening.behindSign_eq] at h
  exact (Sign.text_injective (List.append_cancel_right h)).symm

end Opening

variable {s : Text}

/-- The digits that are read open the text. -/
theorem exists_opening (h : leadingDigits s ≠ []) :
    ∃ opening : Opening s, opening.digits = leadingDigits s := by
  obtain ⟨sign, hdrop, -, -⟩ := exists_sign s
  have hparts : s = s.takeWhile Text.isBlank ++
      (sign.text ++ (leadingDigits s ++ (behindSign s).dropWhile Text.isDigit)) := by
    rw [leadingDigits, List.takeWhile_append_dropWhile, ← hdrop, List.takeWhile_append_dropWhile]
  exact ⟨⟨_, sign, _, _, hparts, fun c => List.mem_takeWhile_imp, h,
    fun c => List.mem_takeWhile_imp⟩, rfl⟩

theorem isEmpty_opening_iff : IsEmpty (Opening s) ↔ leadingDigits s = [] := by
  constructor
  · intro hempty
    by_contra h
    obtain ⟨opening, -⟩ := exists_opening h
    exact hempty.false opening
  · exact fun h => ⟨fun opening => opening.leadingDigits_ne_nil h⟩

namespace Opening

variable {opening : Opening s}

/-- A numeral that stops before the digits do is not the longest. -/
theorem isLongest_iff : opening.IsLongest ↔ opening.digits = leadingDigits s := by
  constructor
  · intro hlongest
    obtain ⟨other, hother⟩ := exists_opening opening.leadingDigits_ne_nil
    have hle := hlongest other
    rw [hother] at hle
    -- no shorter than the digits that are read, and a prefix of them
    refine List.IsPrefix.eq_of_length ?_ (Nat.le_antisymm opening.length_digits_le hle)
    rw [opening.leadingDigits_eq]
    exact List.prefix_append _ _
  · intro h other
    rw [h]
    exact other.length_digits_le

theorem isLongest_of_stop (h : ∀ c, opening.rest.head? = some c → Text.isDigit c = false) :
    opening.IsLongest := by
  rw [isLongest_iff, opening.leadingDigits_eq]
  cases hrest : opening.rest with
  | nil => simp
  | cons c more =>
    have hc := h c (by simp [hrest])
    rw [List.takeWhile_cons_of_neg (by simp [hc]), List.append_nil]

theorem IsLongest.leading?_eq (h : opening.IsLongest) : leading? s = some opening.numeral := by
  obtain ⟨sign, hdrop, hleading, -⟩ := exists_sign s
  rw [numeral, isLongest_iff.mp h, ← opening.sign_eq hdrop]
  exact leading?_of_digits opening.leadingDigits_ne_nil hleading

/-- What is taken from the text is a numeral on its own, with the value it has in the text. -/
theorem IsLongest.ofText_numeral (h : opening.IsLongest)
    (hlength : opening.digits.length ≤ digitLimit) :
    ofText opening.numeral = .ok opening.value ∧ leading s = .ok opening.value := by
  have hread : ofText opening.numeral = .ok opening.value := by
    rw [numeral, ofText_signed _ opening.digits_ne_nil opening.digits_isDigit,
      if_neg (Nat.not_lt.mpr hlength)]
    rfl
  refine ⟨hread, ?_⟩
  rw [leading, h.leading?_eq]
  exact hread

end Opening

theorem exists_leading_iff :
    (∃ value, leading s = .ok value) ↔
      ∀ opening : Opening s, opening.digits.length ≤ digitLimit := by
  constructor
  · rintro ⟨value, hvalue⟩ opening
    by_contra hlong
    have hdigits := opening.length_digits_le
    rw [leading_eq_ite, if_pos (by omega)] at hvalue
    cases hvalue
  · intro h
    refine ⟨leadingValue s, leading_eq ?_⟩
    by_cases hne : leadingDigits s = []
    · simp [hne]
    · obtain ⟨opening, hopening⟩ := exists_opening hne
      rw [← hopening]
      exact h opening

theorem leading?_of_isEmpty (h : IsEmpty (Opening s)) : leading? s = none := by
  obtain ⟨sign, -, hs, -⟩ := exists_sign s
  rw [hs, signedDigits?, ← leadingDigits, isEmpty_opening_iff.mp h]

theorem leading_of_isEmpty (h : IsEmpty (Opening s)) : leading s = .ok 0 := by
  rw [leading, leading?_of_isEmpty h]

theorem leading?_eq_some_iff {numeral : Text} :
    leading? s = some numeral ↔
      ∃ opening : Opening s, opening.IsLongest ∧ opening.numeral = numeral := by
  constructor
  · intro h
    have hne : leadingDigits s ≠ [] := by
      intro hdigits
      rw [leading?_of_isEmpty (isEmpty_opening_iff.mpr hdigits)] at h
      cases h
    obtain ⟨opening, hopening⟩ := exists_opening hne
    have hlongest : opening.IsLongest := Opening.isLongest_iff.mpr hopening
    exact ⟨opening, hlongest, Option.some.inj (hlongest.leading?_eq.symm.trans h)⟩
  · rintro ⟨opening, hlongest, rfl⟩
    exact hlongest.leading?_eq

/-- The sign that is printed, or else the one that is put in front. -/
theorem exists_sign_printed {n : Int} {plus : Text} (h : plus = [] ∨ plus = ['+'] ∧ 0 ≤ n) :
    ∃ sign : Sign, plus ++ Text.ofInt n = sign.text ++ Text.ofNat n.natAbs ∧
      sign.apply n.natAbs = n := by
  cases n with
  | ofNat m =>
    rcases h with rfl | ⟨rfl, -⟩
    · exact ⟨.none, rfl, rfl⟩
    · exact ⟨.plus, rfl, rfl⟩
  | negSucc m =>
    rcases h with rfl | ⟨rfl, hn⟩
    · exact ⟨.minus, rfl, rfl⟩
    · exact absurd hn (by omega)

theorem exists_opening_printed {n : Int} {blanks plus rest : Text}
    (hblanks : ∀ c ∈ blanks, Text.isBlank c = true) (hplus : plus = [] ∨ plus = ['+'] ∧ 0 ≤ n)
    (hrest : ∀ c, rest.head? = some c → Text.isDigit c = false) :
    ∃ opening : Opening (blanks ++ plus ++ Text.ofInt n ++ rest),
      opening.IsLongest ∧ opening.digits = Text.ofNat n.natAbs ∧ opening.value = n := by
  obtain ⟨sign, htext, hvalue⟩ := exists_sign_printed hplus
  have hparts : blanks ++ plus ++ Text.ofInt n ++ rest =
      blanks ++ (sign.text ++ (Text.ofNat n.natAbs ++ rest)) := by
    rw [List.append_assoc blanks, htext, List.append_assoc, List.append_assoc]
  refine ⟨⟨blanks, sign, _, rest, hparts, hblanks, Nat.toDigits_ne_nil,
    fun c hc => Text.isDigit_of_ascii (Text.isDigit_of_mem_ofNat hc)⟩,
    Opening.isLongest_of_stop hrest, rfl, ?_⟩
  rw [Opening.value, digitsValue_ofNat, hvalue]

/-- A printed integer is read back from behind blanks, with a plus sign or without one, whatever
follows it but a digit. What is taken from a text is the longest numeral that the text opens with,
which has a value on its own unless its digits are too many, and nothing else is refused. A text
that opens with no numeral is read as zero. -/
theorem leading_reads_back :
    (∀ (n : Int) (blanks plus rest : Text), (Text.ofNat n.natAbs).length ≤ 4300 →
      (∀ c ∈ blanks, Text.isBlank c = true) → (plus = [] ∨ plus = ['+'] ∧ 0 ≤ n) →
      (∀ c, rest.head? = some c → Text.isDigit c = false) →
      leading (blanks ++ plus ++ Text.ofInt n ++ rest) = .ok n) ∧
    (∀ s numeral : Text, leading? s = some numeral ↔
      ∃ opening : Opening s, opening.IsLongest ∧ opening.numeral = numeral) ∧
    (∀ (s : Text) (opening : Opening s), opening.IsLongest → opening.digits.length ≤ 4300 →
      ofText opening.numeral = .ok opening.value ∧ leading s = .ok opening.value) ∧
    (∀ s : Text, (∃ value, leading s = .ok value) ↔
      ∀ opening : Opening s, opening.digits.length ≤ 4300) ∧
    ∀ s : Text, IsEmpty (Opening s) → leading s = .ok 0 := by
  refine ⟨?_, fun s numeral => leading?_eq_some_iff, fun s opening h => h.ofText_numeral,
    fun s => exists_leading_iff, fun s => leading_of_isEmpty⟩
  intro n blanks plus rest hlength hblanks hplus hrest
  obtain ⟨opening, hlongest, hdigits, hvalue⟩ := exists_opening_printed hblanks hplus hrest
  rw [← hdigits] at hlength
  rw [(hlongest.ofText_numeral hlength).2, hvalue]

/-- Digits of two scripts behind a separator and a wide blank, and a superscript behind them. -/
def mixedOpening : Opening "\u001f\u3000-\u0663\u096b\u00b2".toList where
  blanks := ['\u001f', '\u3000']
  sign := .minus
  digits := ['\u0663', '\u096b']
  rest := ['\u00b2']
  parts := rfl
  blanks_isBlank := List.all_eq_true.mp rfl
  digits_ne_nil := by decide
  digits_isDigit := List.all_eq_true.mp rfl

theorem leading_reads_back_in_two_scripts :
    leading "\u00a0+1205_7".toList = .ok 1205 ∧
      leading "\u001f\u3000-\u0663\u096b\u00b2".toList = .ok (-35) ∧
      leading " +-5".toList = .ok 0 := by
  obtain ⟨hprinted, -, hvalue, -, hzero⟩ := leading_reads_back
  refine ⟨?_, ?_, ?_⟩
  · exact hprinted 1205 ['\u00a0'] ['+'] ['_', '7'] (by decide) (List.all_eq_true.mp rfl)
      (Or.inr ⟨rfl, by decide⟩) (by rintro c ⟨⟩; rfl)
  · have hlongest : mixedOpening.IsLongest := Opening.isLongest_of_stop (by rintro c ⟨⟩; rfl)
    exact (hvalue _ mixedOpening hlongest (by decide)).2
  · exact hzero _ (isEmpty_opening_iff.mpr rfl)

end Numeral

end LoginReport
