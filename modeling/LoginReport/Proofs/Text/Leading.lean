import LoginReport.Proofs.Text.Numeral

set_option autoImplicit false

/-!
# Leading integers

The leading integer of a text is that of the digits behind the blanks and the sign at its beginning,
in any scripts, and zero where there are none. It is read unless the digits are too many.
-/

namespace LoginReport

namespace Sign

def text : Sign → Text
  | .none => []
  | .plus => ['+']
  | .minus => ['-']

/-- The integer that has the sign and a magnitude. -/
def apply : Sign → Nat → Int
  | .minus, n => -(n : Int)
  | _, n => n

theorem apply_zero (sign : Sign) : sign.apply 0 = 0 := by
  cases sign <;> rfl

theorem text_injective : Function.Injective text := by
  intro a b
  cases a <;> cases b <;> simp [text]

end Sign

namespace Numeral

/-- The value of decimal digits of any script. -/
def digitsValue (digits : Text) : Nat :=
  Nat.ofDigits 10 (digitValues digits).reverse

/-- What follows the blanks and the sign at the beginning of a text. -/
def behindSign (s : Text) : Text :=
  let signed := s.dropWhile Text.isBlank
  if signed.head? = some '+' ∨ signed.head? = some '-' then signed.tail else signed

def leadingDigits (s : Text) : Text := (behindSign s).takeWhile Text.isDigit

def hasMinus (s : Text) : Bool := (s.dropWhile Text.isBlank).head? == some '-'

def leadingValue (s : Text) : Int :=
  if hasMinus s then -(digitsValue (leadingDigits s) : Int) else digitsValue (leadingDigits s)

variable {s digits : Text}

/-- Only the digits count towards the limit. -/
theorem ofText_signed (sign : Sign) (hne : digits ≠ [])
    (h : ∀ c ∈ digits, Text.isDigit c = true) :
    ofText (sign.text ++ digits) =
      if digitLimit < digits.length then .error (.tooLong digits.length)
      else .ok (sign.apply (digitsValue digits)) := by
  have hread : read ((sign.text ++ digits).map Glyph.ofChar) =
      (unsigned (digits.map Glyph.ofChar)).map sign.apply := by
    cases sign with
    | none => exact read_map_ofChar hne h
    | plus => rfl
    | minus =>
      -- the number is made an integer first and negated then
      change (unsigned (digits.map Glyph.ofChar)).map (fun n => -(n : Int)) = _
      cases unsigned (digits.map Glyph.ofChar) with
      | error misreading => rfl
      | ok n => rfl
  rw [ofText, hread, unsigned_map_ofChar hne h, Decimal.valueOf_eq_ofDigits]
  split
  · rfl
  · rfl

/-- The sign at the beginning of a text, as each of the readers has it. -/
theorem exists_sign (s : Text) :
    ∃ sign : Sign, s.dropWhile Text.isBlank = sign.text ++ behindSign s ∧
      leading? s = signedDigits? sign.text (behindSign s) ∧
      leadingValue s = sign.apply (digitsValue (leadingDigits s)) := by
  unfold leadingValue leadingDigits leading? behindSign hasMinus
  generalize s.dropWhile Text.isBlank = t
  split
  · exact ⟨.plus, rfl, rfl, rfl⟩
  · exact ⟨.minus, rfl, rfl, rfl⟩
  · rename_i hplus hminus
    have hhead : t.head? ≠ some '+' ∧ t.head? ≠ some '-' := by
      cases t with
      | nil => simp
      | cons c rest =>
        simp only [List.head?_cons, ne_eq, Option.some.injEq]
        exact ⟨fun hc => hplus rest (hc ▸ rfl), fun hc => hminus rest (hc ▸ rfl)⟩
    refine ⟨.none, ?_⟩
    rw [if_neg (not_or.mpr hhead), if_neg (by simpa using hhead.2)]
    exact ⟨rfl, rfl, rfl⟩

theorem leading?_of_digits (h : leadingDigits s ≠ []) {sign : Sign}
    (hs : leading? s = signedDigits? sign.text (behindSign s)) :
    leading? s = some (sign.text ++ leadingDigits s) := by
  unfold leadingDigits at h ⊢
  rw [hs, signedDigits?]
  split
  · contradiction
  · rfl

theorem leading_eq_ite (s : Text) :
    leading s = if digitLimit < (leadingDigits s).length
      then .error (.tooLong (leadingDigits s).length) else .ok (leadingValue s) := by
  obtain ⟨sign, -, hs, hvalue⟩ := exists_sign s
  by_cases hne : leadingDigits s = []
  · have hzero : leadingValue s = 0 := by
      rw [hvalue, hne]
      exact sign.apply_zero
    rw [hzero, hne, leading, hs, signedDigits?, ← leadingDigits, hne]
    rfl
  · rw [leading, leading?_of_digits hne hs, hvalue]
    exact ofText_signed sign hne fun c => List.mem_takeWhile_imp

theorem leading_eq (h : (leadingDigits s).length ≤ digitLimit) :
    leading s = .ok (leadingValue s) := by
  rw [leading_eq_ite, if_neg (Nat.not_lt.mpr h)]

end Numeral

end LoginReport
