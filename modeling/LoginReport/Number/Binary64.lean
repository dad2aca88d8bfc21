import LoginReport.Number.Rounding
import LoginReport.Text.Basic

set_option autoImplicit false

/-!
# Binary floating-point numbers of 64 bits

A finite number is a sign and a multiple of the smallest positive number, `2 ^ (-1074)`. Arithmetic
is exact on these multiples and rounded once, to 53 significant digits; what reaches `2 ^ 1024`
becomes infinite. A result that is no number keeps the sign of the operand that was none, and is
negative when no operand was.
-/

namespace LoginReport

inductive Binary64 where
  | nan (negative : Bool)
  | infinite (negative : Bool)
  | finite (negative : Bool) (units : Nat)
deriving DecidableEq, Repr

/-- Why a number could not be computed. -/
inductive NumberFault where
  | nanToInteger
  | infinityToInteger
  | integerTooLarge
  | quotientTooLarge
  | divisionByZero
  | integerDivisionByZero
deriving DecidableEq, Repr

def NumberFault.message : NumberFault → Text
  | .nanToInteger => "cannot convert float NaN to integer".toList
  | .infinityToInteger => "cannot convert float infinity to integer".toList
  | .integerTooLarge => "int too large to convert to float".toList
  | .quotientTooLarge => "integer division result too large for a float".toList
  | .divisionByZero => "division by zero".toList
  | .integerDivisionByZero => "integer division or modulo by zero".toList

namespace Binary64

/-- How many units make one. -/
def scale : Nat := weight 1074

/-- The number of units from which on a number is infinite. -/
def unitLimit : Nat := weight 2098

/-- The nearest number to `num / den` units. -/
def ofUnits (negative : Bool) (num den : Nat) : Binary64 :=
  let units := roundSignificant num den
  if units < unitLimit then finite negative units else infinite negative

def zero : Binary64 := finite false 0

def ofInt (n : Int) : Binary64 := ofUnits (n < 0) (n.natAbs * scale) 1

/-- The number if it is finite, and else the fault. -/
def orFault (x : Binary64) (fault : NumberFault) : Except NumberFault Binary64 :=
  match x with
  | finite negative units => .ok (finite negative units)
  | _ => .error fault

/-- An integer as a number, unless it is too large for a finite one. -/
def ofInt? (n : Int) : Except NumberFault Binary64 := (ofInt n).orFault .integerTooLarge

/-- The nearest number to `mantissa * 10 ^ exponent`. Exponents far outside the range of finite
numbers are decided without computing the power. -/
def ofDecimal (negative : Bool) (mantissa : Nat) (exponent : Int) : Binary64 :=
  if mantissa = 0 then finite negative 0
  else if 400 < exponent then infinite negative
  else if exponent + (Text.ofNat mantissa).length < -400 then finite negative 0
  else
    ofUnits negative (mantissa * Nat.pow 10 exponent.toNat * scale)
      (Nat.pow 10 (-exponent).toNat)

def neg : Binary64 → Binary64
  | nan negative => nan negative
  | infinite negative => infinite (!negative)
  | finite negative units => finite (!negative) units

/-- The signed number of units. -/
def signedUnits (negative : Bool) (units : Nat) : Int := if negative then -units else units

/-- The nearest number to a signed number of units; zero is negative only when asked for. -/
def ofSignedUnits (units : Int) (negativeZero : Bool) : Binary64 :=
  if units = 0 then finite negativeZero 0 else ofUnits (units < 0) units.natAbs 1

def add : Binary64 → Binary64 → Binary64
  | nan s, _ => nan s
  | _, nan s => nan s
  | infinite s, infinite t => if s = t then infinite s else nan true
  | infinite s, _ => infinite s
  | _, infinite t => infinite t
  | finite s a, finite t b => ofSignedUnits (signedUnits s a + signedUnits t b) (s && t)

/-- The difference; a subtrahend that is no number keeps its sign. -/
def sub (x y : Binary64) : Binary64 := add x (neg y)

def mul : Binary64 → Binary64 → Binary64
  | nan s, _ => nan s
  | _, nan s => nan s
  | infinite s, infinite t => infinite (s != t)
  | infinite s, finite t b => if b = 0 then nan true else infinite (s != t)
  | finite s a, infinite t => if a = 0 then nan true else infinite (s != t)
  | finite s a, finite t b => ofUnits (s != t) (a * b) scale

/-- The nearest number to the quotient of two integers, of which the second is not zero. -/
def ofRatio (num den : Int) : Binary64 :=
  ofUnits (decide (num < 0) != decide (den < 0)) (num.natAbs * scale) den.natAbs

def ratio (num den : Int) : Except NumberFault Binary64 :=
  if den = 0 then .error .divisionByZero
  else (ofRatio num den).orFault .quotientTooLarge

def div : Binary64 → Binary64 → Binary64
  | nan s, _ => nan s
  | _, nan s => nan s
  | infinite _, infinite _ => nan true
  | infinite s, finite t _ => infinite (s != t)
  | finite s _, infinite t => finite (s != t) 0
  | finite s a, finite t b =>
    if b ≠ 0 then ofUnits (s != t) (a * scale) b
    else if a = 0 then nan true
    else infinite (s != t)

/-- The number is greater than the integer. -/
def exceeds (x : Binary64) (n : Int) : Bool :=
  match x with
  | nan _ => false
  | infinite negative => !negative
  | finite negative units => n * scale < signedUnits negative units

/-- The greatest integer that is not greater. -/
def floorUnits (negative : Bool) (units : Nat) : Int := signedUnits negative units / scale

/-- The integer part, of the number's sign. -/
def truncUnits (negative : Bool) (units : Nat) : Int := signedUnits negative (units / scale)

def trunc : Binary64 → Except NumberFault Int
  | nan _ => .error .nanToInteger
  | infinite _ => .error .infinityToInteger
  | finite negative units => .ok (truncUnits negative units)

/-- The number in hundredths with two decimal places; a tie goes to the even hundredth. -/
def twoPlaces : Binary64 → Text
  | nan _ => "nan".toList
  | infinite negative => (if negative then "-inf" else "inf").toList
  | finite negative units =>
    let hundredths := roundDiv (units * 100) scale
    (if negative then ['-'] else []) ++ Text.ofNat (hundredths / 100) ++ '.' ::
      Text.zeroTwo (hundredths % 100 : Nat)

/-- The sign, exponent and fraction as one word. -/
def toBits : Binary64 → Nat
  | nan negative => signBit negative + 0x7ff8000000000000
  | infinite negative => signBit negative + 0x7ff0000000000000
  | finite negative units =>
    let place := units.log2 - 52
    signBit negative + place * weight 52 + units / weight place
where
  signBit (negative : Bool) : Nat := if negative then weight 63 else 0

theorem signedUnits_nonneg (units : Nat) : 0 ≤ signedUnits false units := by
  simp [signedUnits]

theorem natAbs_signedUnits (negative : Bool) (units : Nat) :
    (signedUnits negative units).natAbs = units := by
  cases negative <;> simp [signedUnits]

end Binary64

end LoginReport
