import LoginReport.Text.Blank
import LoginReport.Text.Digit
import LoginReport.Text.Quoted

set_option autoImplicit false

/-!
# Decimal numerals

A numeral is a sign and decimal digits, with blanks around it and single underscores between
digits. `ofText` accepts the digits of every script, `ofBytes` those of ASCII, and more than 4300
digits are refused. `leading` reads the signed digits at the beginning of a text and ignores what
follows them.
-/

namespace LoginReport.Numeral

/-- What a character means inside a numeral. -/
inductive Glyph where
  | digit (value : Nat)
  | joiner
  | plus
  | minus
  | blank
  | other
deriving DecidableEq, Repr

inductive Misreading where
  | malformed
  | tooLong (digits : Nat)
deriving DecidableEq, Repr

namespace Glyph

/-- The information separators, blank elsewhere, are not blank around a numeral. -/
def ofChar (c : Char) : Glyph :=
  match Text.digitValue? c with
  | some v => .digit v
  | none =>
    if c = '_' then .joiner
    else if c = '+' then .plus
    else if c = '-' then .minus
    else if 0x1c ≤ c.toNat ∧ c.toNat ≤ 0x1f then .other
    else if Text.isBlank c then .blank
    else .other

def ofByte (b : UInt8) : Glyph :=
  if 0x30 ≤ b ∧ b ≤ 0x39 then .digit (b.toNat - 0x30)
  else if b = 0x5f then .joiner
  else if b = 0x2b then .plus
  else if b = 0x2d then .minus
  else if Text.isBlankByte b then .blank
  else .other

def isBlank : Glyph → Bool
  | .blank => true
  | _ => false

def isDigitOrJoiner : Glyph → Bool
  | .digit _ => true
  | .joiner => true
  | _ => false

def value? : Glyph → Option Nat
  | .digit v => some v
  | _ => none

end Glyph

/-- The run begins and ends with a digit and has no two joiners side by side. -/
def wellJoined : List Glyph → Bool
  | [] => false
  | [.digit _] => true
  | .digit _ :: .joiner :: rest => wellJoined rest
  | .digit _ :: rest => wellJoined rest
  | _ => false

def valueOf (digits : List Nat) : Nat := digits.foldl (fun n v => 10 * n + v) 0

def digitLimit : Nat := 4300

/-- The length of a well-joined run is judged before what follows the run. -/
def unsigned (glyphs : List Glyph) : Except Misreading Nat :=
  let run := glyphs.takeWhile Glyph.isDigitOrJoiner
  let digits := run.filterMap Glyph.value?
  if !wellJoined run then .error .malformed
  else if digitLimit < digits.length then .error (.tooLong digits.length)
  else if (glyphs.dropWhile Glyph.isDigitOrJoiner).all Glyph.isBlank then .ok (valueOf digits)
  else .error .malformed

def signed : List Glyph → Except Misreading Int
  | .minus :: rest => (unsigned rest).map fun n => -(n : Int)
  | .plus :: rest => (unsigned rest).map Int.ofNat
  | rest => (unsigned rest).map Int.ofNat

def read (glyphs : List Glyph) : Except Misreading Int := signed (glyphs.dropWhile Glyph.isBlank)

end Numeral

/-- Why a numeral was refused. A malformed one is quoted, in at most 200 characters. -/
inductive NumeralFault where
  | malformed (quoted : Text)
  | tooLong (digits : Nat)
deriving DecidableEq, Repr

def NumeralFault.message : NumeralFault → Text
  | .malformed quoted => "invalid literal for int() with base 10: ".toList ++ quoted
  | .tooLong digits =>
    "Exceeds the limit (4300 digits) for integer string conversion: value has ".toList ++
      Text.ofNat digits ++
      " digits; use sys.set_int_max_str_digits() to increase the limit".toList

namespace Numeral

def explain (quoted : Text) : Misreading → NumeralFault
  | .malformed => .malformed (quoted.take 200)
  | .tooLong digits => .tooLong digits

def ofText (s : Text) : Except NumeralFault Int :=
  (read (s.map Glyph.ofChar)).mapError (explain (Quoted.text s))

def ofBytes (bs : Bytes) : Except NumeralFault Int :=
  (read (bs.map Glyph.ofByte)).mapError (explain (Quoted.bytes (bs.take 200)))

def signedDigits? (sign : Text) (s : Text) : Option Text :=
  match s.takeWhile Text.isDigit with
  | [] => none
  | digits => some (sign ++ digits)

/-- The optional sign and the digits that follow the blanks at the beginning of a text. -/
def leading? (s : Text) : Option Text :=
  match s.dropWhile Text.isBlank with
  | '+' :: rest => signedDigits? ['+'] rest
  | '-' :: rest => signedDigits? ['-'] rest
  | rest => signedDigits? [] rest

/-- The leading integer of a text, zero if it has none. -/
def leading (s : Text) : Except NumeralFault Int :=
  match leading? s with
  | none => .ok 0
  | some numeral => ofText numeral

/-- An optional numeral; what is missing, empty or refused gives nothing. -/
def optional (s : Option Text) : Option Int :=
  match s with
  | none => none
  | some [] => none
  | some s => (ofText s).toOption

end LoginReport.Numeral
