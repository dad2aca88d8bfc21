import Mathlib.Data.List.TakeWhile
import Mathlib.Data.Nat.Digits.Defs
import LoginReport.Proofs.Results
import LoginReport.Proofs.Text.Decimal
import LoginReport.Text.Numeral

set_option autoImplicit false

/-!
# Numerals of digits only

Digits without blanks or joiners are read as their value, with a sign before them or without one, or
refused where there are too many. A number that was read is printed in no more digits than are read.
-/

namespace LoginReport.Numeral

theorem wellJoined_digits (value : Nat) (values : List Nat) :
    wellJoined ((value :: values).map Glyph.digit) = true := by
  induction values generalizing value with
  | nil => rfl
  | cons next values ih => exact ih next

theorem unsigned_digits (value : Nat) (values : List Nat) :
    unsigned ((value :: values).map Glyph.digit) =
      if digitLimit < (value :: values).length then .error (.tooLong (value :: values).length)
      else .ok (valueOf (value :: values)) := by
  have hall : ∀ glyph ∈ (value :: values).map Glyph.digit, glyph.isDigitOrJoiner = true := by
    simp [Glyph.isDigitOrJoiner]
  have hrun := List.takeWhile_eq_self_iff.mpr hall
  have hrest := List.dropWhile_eq_nil_iff.mpr hall
  have hdigits : ((value :: values).map Glyph.digit).filterMap Glyph.value? = value :: values := by
    rw [List.filterMap_map]
    exact List.filterMap_some
  unfold unsigned
  rw [hrun, hrest]
  dsimp only
  rw [hdigits, wellJoined_digits]
  rfl

/-- A digit that is none counts as zero. -/
def digitValues (s : Text) : List Nat := s.map fun c => (Text.digitValue? c).getD 0

theorem map_ofChar {s : Text} (h : ∀ c ∈ s, Text.isDigit c = true) :
    s.map Glyph.ofChar = (digitValues s).map Glyph.digit := by
  rw [digitValues, List.map_map]
  apply List.map_congr_left
  intro c hc
  obtain ⟨value, hvalue⟩ := Option.isSome_iff_exists.mp (h c hc)
  simp [Glyph.ofChar, hvalue]

theorem unsigned_map_ofChar {s : Text} (hne : s ≠ []) (h : ∀ c ∈ s, Text.isDigit c = true) :
    unsigned (s.map Glyph.ofChar) =
      if digitLimit < s.length then .error (.tooLong s.length)
      else .ok (valueOf (digitValues s)) := by
  obtain ⟨first, rest, rfl⟩ := List.exists_cons_of_ne_nil hne
  have hunsigned := unsigned_digits ((Text.digitValue? first).getD 0) (digitValues rest)
  rw [map_ofChar h]
  simpa [digitValues] using hunsigned

/-- Digits are neither blanks nor a sign. -/
theorem read_map_ofChar {s : Text} (hne : s ≠ []) (h : ∀ c ∈ s, Text.isDigit c = true) :
    read (s.map Glyph.ofChar) = (unsigned (s.map Glyph.ofChar)).map Int.ofNat := by
  obtain ⟨first, rest, rfl⟩ := List.exists_cons_of_ne_nil hne
  rw [map_ofChar h]
  rfl

/-- Zeros in front count as digits too. -/
theorem ofText_of_too_many_digits {s : Text} (h : ∀ c ∈ s, Text.isDigit c = true)
    (hlength : digitLimit < s.length) : ofText s = .error (.tooLong s.length) := by
  have hne : s ≠ [] := List.ne_nil_of_length_pos (by omega)
  rw [ofText, read_map_ofChar hne h, unsigned_map_ofChar hne h, if_pos hlength]
  rfl

end LoginReport.Numeral

/-! ## Written decimals -/

namespace LoginReport

inductive Sign where
  | none
  | plus
  | minus
deriving DecidableEq, Repr

/-- A number as it is written down. Zeros may stand in front. -/
structure Decimal where
  sign : Sign
  first : Fin 10
  rest : List (Fin 10)
deriving DecidableEq, Repr

namespace Decimal

def digits (decimal : Decimal) : List (Fin 10) := decimal.first :: decimal.rest

def magnitude (decimal : Decimal) : Nat := Nat.ofDigits 10 (decimal.digits.reverse.map Fin.val)

def value (decimal : Decimal) : Int :=
  match decimal.sign with
  | .minus => -(decimal.magnitude : Int)
  | _ => decimal.magnitude

def signBytes : Sign → Bytes
  | .none => []
  | .plus => [0x2b]
  | .minus => [0x2d]

def digitByte (digit : Fin 10) : UInt8 := 0x30 + UInt8.ofNat digit

def bytes (decimal : Decimal) : Bytes :=
  signBytes decimal.sign ++ decimal.digits.map digitByte

/-- A byte that a written decimal is made of. -/
def IsByte (b : UInt8) : Prop := b = 0x2b ∨ b = 0x2d ∨ ∃ digit, b = digitByte digit

instance : DecidablePred IsByte := fun _ => inferInstanceAs (Decidable (_ ∨ _ ∨ _))

theorem isByte_of_mem (decimal : Decimal) {b : UInt8} (h : b ∈ decimal.bytes) : IsByte b := by
  rcases List.mem_append.mp h with hsign | hdigit
  · cases hs : decimal.sign with
    | none => simp [hs, signBytes] at hsign
    | plus => exact Or.inl (by simpa [hs, signBytes] using hsign)
    | minus => exact Or.inr (Or.inl (by simpa [hs, signBytes] using hsign))
  · obtain ⟨digit, -, rfl⟩ := List.mem_map.mp hdigit
    exact Or.inr (Or.inr ⟨digit, rfl⟩)

theorem IsByte.not_isBlankByte {b : UInt8} (h : IsByte b) : Text.isBlankByte b = false := by
  have hdigits : ∀ digit, Text.isBlankByte (digitByte digit) = false := by decide
  rcases h with rfl | rfl | ⟨digit, rfl⟩
  · rfl
  · rfl
  · exact hdigits digit

theorem bytes_ne_nil (decimal : Decimal) : decimal.bytes ≠ [] := by
  simp [bytes, digits]

theorem ofByte_digitByte (digit : Fin 10) :
    Numeral.Glyph.ofByte (digitByte digit) = .digit digit.val := by
  revert digit
  decide

/-- The digits as they are read. -/
def glyphs (decimal : Decimal) : List Numeral.Glyph :=
  (decimal.digits.map Fin.val).map Numeral.Glyph.digit

theorem map_ofByte_digits (decimal : Decimal) :
    (decimal.digits.map digitByte).map Numeral.Glyph.ofByte = decimal.glyphs := by
  simp [glyphs, ofByte_digitByte]

/-- Reading adds up the digits from the first one on, the last of which counts one. -/
theorem valueOf_eq_ofDigits (values : List Nat) :
    Numeral.valueOf values = Nat.ofDigits 10 values.reverse := by
  rw [Numeral.valueOf, Nat.ofDigits_eq_foldr, List.foldr_reverse]
  congr 1
  funext total digit
  exact Nat.add_comm _ _

theorem unsigned_glyphs (decimal : Decimal) (h : decimal.digits.length ≤ Numeral.digitLimit) :
    Numeral.unsigned decimal.glyphs = .ok decimal.magnitude := by
  have hread := Numeral.unsigned_digits decimal.first (decimal.rest.map Fin.val)
  rw [if_neg (by simpa [digits] using h), valueOf_eq_ofDigits] at hread
  rw [magnitude, List.map_reverse]
  exact hread

theorem ofBytes_bytes (decimal : Decimal) (h : decimal.digits.length ≤ Numeral.digitLimit) :
    Numeral.ofBytes decimal.bytes = .ok decimal.value := by
  have hunsigned := unsigned_glyphs decimal h
  have hread : Numeral.read (decimal.bytes.map Numeral.Glyph.ofByte) = .ok decimal.value := by
    rw [bytes, List.map_append, map_ofByte_digits, value]
    cases decimal.sign with
    | none =>
      change (Numeral.unsigned decimal.glyphs).map Int.ofNat = _
      rw [hunsigned]
      rfl
    | plus =>
      change (Numeral.unsigned decimal.glyphs).map Int.ofNat = _
      rw [hunsigned]
      rfl
    | minus =>
      change (Numeral.unsigned decimal.glyphs).map (fun n => -(n : Int)) = _
      rw [hunsigned]
      rfl
  rw [Numeral.ofBytes, hread]
  rfl

end Decimal

/-! ## What was read can be printed -/

namespace Numeral

/-- Every digit is a decimal one. -/
def IsDecimal (glyphs : List Glyph) : Prop := ∀ value, .digit value ∈ glyphs → value < 10

theorem isDecimal_ofChar (s : Text) : IsDecimal (s.map Glyph.ofChar) := by
  intro value hmem
  obtain ⟨c, -, hc⟩ := List.mem_map.mp hmem
  unfold Glyph.ofChar at hc
  cases hvalue : Text.digitValue? c with
  | none =>
    rw [hvalue] at hc
    dsimp only at hc
    split_ifs at hc
  | some digit =>
    rw [hvalue] at hc
    obtain rfl := Glyph.digit.inj hc
    obtain ⟨start, hfind, rfl⟩ := Option.map_eq_some_iff.mp hvalue
    have hrange := List.find?_some hfind
    simp only [Bool.and_eq_true, decide_eq_true_eq] at hrange
    omega

theorem isDecimal_ofByte (bytes : Bytes) : IsDecimal (bytes.map Glyph.ofByte) := by
  intro value hmem
  obtain ⟨b, -, hb⟩ := List.mem_map.mp hmem
  unfold Glyph.ofByte at hb
  split_ifs at hb with hrange
  obtain rfl := Glyph.digit.inj hb
  simp only [UInt8.le_iff_toNat_le, UInt8.reduceToNat] at hrange
  omega

variable {glyphs : List Glyph}

theorem unsigned_lt (hdecimal : IsDecimal glyphs) {n : Nat} (h : unsigned glyphs = .ok n) :
    n < 10 ^ digitLimit := by
  unfold unsigned at h
  dsimp only at h
  split_ifs at h with hjoined hlength hrest
  obtain rfl := Except.ok.inj h
  have hdigits :
      ∀ value ∈ ((glyphs.takeWhile Glyph.isDigitOrJoiner).filterMap Glyph.value?).reverse,
        value < 10 := by
    intro value hvalue
    obtain ⟨glyph, hglyph, hsome⟩ := List.mem_filterMap.mp (List.mem_reverse.mp hvalue)
    cases glyph with
    | digit v =>
      obtain rfl := Option.some.inj hsome
      exact hdecimal v ((List.takeWhile_sublist _).subset hglyph)
    | _ => cases hsome
  rw [Decimal.valueOf_eq_ofDigits]
  refine (Nat.ofDigits_lt_base_pow_length (by decide) hdigits).trans_le ?_
  rw [List.length_reverse]
  exact Nat.pow_le_pow_right (by decide) (Nat.not_lt.mp hlength)

/-- By the sign: the digits behind it are the number without it. -/
theorem exists_unsigned_of_read {n : Int} (h : read glyphs = .ok n) :
    ∃ rest, rest <:+ glyphs ∧ unsigned rest = .ok n.natAbs := by
  have hopen := List.dropWhile_suffix (l := glyphs) Glyph.isBlank
  unfold read signed at h
  split at h
  · rename_i rest hminus
    rw [hminus] at hopen
    obtain ⟨_, hlift, rfl⟩ := (map_eq_ok _ _ _).mp h
    obtain ⟨m, hm, hcast⟩ := (bind_eq_ok _ _ _).mp hlift
    obtain rfl := (pure_eq_ok _ _).mp hcast
    refine ⟨rest, (List.suffix_cons _ _).trans hopen, ?_⟩
    rw [hm, Int.natAbs_neg, Int.natAbs_natCast]
  · rename_i rest hplus
    rw [hplus] at hopen
    obtain ⟨m, hm, rfl⟩ := (map_eq_ok _ _ _).mp h
    exact ⟨rest, (List.suffix_cons _ _).trans hopen, hm⟩
  · obtain ⟨m, hm, rfl⟩ := (map_eq_ok _ _ _).mp h
    exact ⟨_, hopen, hm⟩

theorem length_ofNat_le_of_read (hdecimal : IsDecimal glyphs) {n : Int} (h : read glyphs = .ok n) :
    (Text.ofNat n.natAbs).length ≤ digitLimit := by
  obtain ⟨rest, hsuffix, hrest⟩ := exists_unsigned_of_read h
  have hlt := unsigned_lt (fun value hmem => hdecimal value (hsuffix.subset hmem)) hrest
  exact (Text.length_ofNat_le_iff _ _ (by decide)).mpr hlt

/-- What was read from text has no more digits than may be read. -/
theorem length_ofNat_le_of_ofText {s : Text} {n : Int} (h : ofText s = .ok n) :
    (Text.ofNat n.natAbs).length ≤ digitLimit :=
  length_ofNat_le_of_read (isDecimal_ofChar s) ((mapError_eq_ok _ _ _).mp h)

/-- What was read from bytes has no more digits than may be read. -/
theorem length_ofNat_le_of_ofBytes {bytes : Bytes} {n : Int} (h : ofBytes bytes = .ok n) :
    (Text.ofNat n.natAbs).length ≤ digitLimit :=
  length_ofNat_le_of_read (isDecimal_ofByte bytes) ((mapError_eq_ok _ _ _).mp h)

end Numeral

end LoginReport
