import LoginReport.Text.Basic

set_option autoImplicit false

/-!
# Blanks and line breaks

Blank characters separate words; they are the Unicode white space and the four information
separators. A line break ends a line, and a carriage return with a line feed is one break.
-/

namespace LoginReport.Text

def isBlank (c : Char) : Bool :=
  let n := c.toNat
  (0x09 ≤ n && n ≤ 0x0d) || (0x1c ≤ n && n ≤ 0x20) || n == 0x85 || n == 0xa0 || n == 0x1680 ||
    (0x2000 ≤ n && n ≤ 0x200a) || n == 0x2028 || n == 0x2029 || n == 0x202f || n == 0x205f ||
    n == 0x3000

def isLineBreak (c : Char) : Bool :=
  let n := c.toNat
  (0x0a ≤ n && n ≤ 0x0d) || (0x1c ≤ n && n ≤ 0x1e) || n == 0x85 || n == 0x2028 || n == 0x2029

/-- The blanks among bytes are ASCII white space; the separators are not blank here. -/
def isBlankByte (b : UInt8) : Bool := (0x09 ≤ b && b ≤ 0x0d) || b == 0x20

/-- The maximal runs of items that are not separators. -/
def runs {α : Type} (separator : α → Bool) (items : List α) : List (List α) :=
  (items.splitOnP separator).filter fun run => !run.isEmpty

def words (s : Text) : List Text := runs isBlank s

/-- The lines of a text without their breaks; a break at the very end opens no further line. -/
def lines : Text → List Text
  | [] => []
  | '\r' :: '\n' :: rest => [] :: lines rest
  | c :: rest =>
    if isLineBreak c then [] :: lines rest
    else match lines rest with
      | [] => [[c]]
      | line :: more => (c :: line) :: more

end LoginReport.Text
