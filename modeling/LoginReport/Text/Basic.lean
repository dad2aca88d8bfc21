set_option autoImplicit false

/-!
# Text, byte strings and columns

Text is a list of characters and is measured in characters. A column is text cut to a width or
filled up with blanks; a width may be any integer.
-/

namespace LoginReport

abbrev Text := List Char

abbrev Bytes := List UInt8

namespace Text

/-- Fill up with `fill` on the right, to at least `width` characters. -/
def padRight (s : Text) (width : Int) (fill : Char) : Text :=
  s ++ List.replicate (width.toNat - s.length) fill

/-- Fill up with `fill` on the left, to at least `width` characters. -/
def padLeft (s : Text) (width : Nat) (fill : Char) : Text :=
  List.replicate (width - s.length) fill ++ s

/-- The first `n` characters, or all but the last `-n` when `n` is negative. -/
def cut (s : Text) (n : Int) : Text :=
  if 0 ≤ n then s.take n.toNat else s.take (s.length - (-n).toNat)

/-- The decimal digits of a natural number, however many they are. An interpreter that limits them
as `Numeral.digitLimit` limits those that are read prints only the numbers below
`10 ^ Numeral.digitLimit`. No numeral that was read is beyond them. -/
def ofNat (n : Nat) : Text := Nat.toDigits 10 n

/-- The decimal numeral of an integer, with a minus sign below zero. -/
def ofInt : Int → Text
  | .ofNat n => ofNat n
  | .negSucc n => '-' :: ofNat (n + 1)

/-- The parts with `separator` between neighbours. -/
def join (separator : Text) : List Text → Text
  | [] => []
  | [s] => s
  | s :: t :: rest => s ++ separator ++ join separator (t :: rest)

theorem length_padRight (s : Text) (width : Int) (fill : Char) :
    (s.padRight width fill).length = max s.length width.toNat := by
  simp only [padRight, List.length_append, List.length_replicate]
  omega

theorem append_padRight (s t : Text) (width : Int) (fill : Char) :
    s ++ t.padRight (width - s.length) fill = (s ++ t).padRight width fill := by
  have hfill : (width - s.length).toNat - t.length = width.toNat - (s ++ t).length := by
    rw [List.length_append]
    omega
  rw [padRight, padRight, hfill, List.append_assoc]

theorem length_padLeft (s : Text) (width : Nat) (fill : Char) :
    (s.padLeft width fill).length = max s.length width := by
  simp only [padLeft, List.length_append, List.length_replicate]
  omega

theorem length_cut_of_nonneg (s : Text) (n : Int) (h : 0 ≤ n) :
    (s.cut n).length = min n.toNat s.length := by
  simp [cut, h]

theorem toNat_ofNat_byte (b : UInt8) : (Char.ofNat b.toNat).toNat = b.toNat := by
  have hvalid : b.toNat.isValidChar := Or.inl (by have := b.toNat_lt; omega)
  rw [Char.ofNat, dif_pos hvalid]
  rfl

end Text

/-- A number in at least two columns, filled with blanks. -/
def Text.blankTwo (n : Int) : Text := (Text.ofInt n).padLeft 2 ' '

/-- A number in at least two columns, filled with zeros. -/
def Text.zeroTwo (n : Int) : Text := (Text.ofInt n).padLeft 2 '0'

end LoginReport
