import LoginReport.Text.Printable

set_option autoImplicit false

/-!
# Quoted values

A quoted text stands between single quotes, or between double quotes when it holds single quotes
only. The quote, the backslash and every character that cannot be shown are escaped.
-/

namespace LoginReport.Quoted

/-- A number as lower-case hexadecimal of at least `width` digits. -/
def hex (width n : Nat) : Text := Text.padLeft (Nat.toDigits 16 n) width '0'

def mark (single double : Bool) : Char := if single && !double then '"' else '\''

/-- The escapes that have a letter of their own. -/
def letter? (n : Nat) : Option Char :=
  if n = 0x09 then some 't' else if n = 0x0a then some 'n' else if n = 0x0d then some 'r' else none

def character (quote : Char) (c : Char) : Text :=
  if c = quote ∨ c = '\\' then ['\\', c]
  else match letter? c.toNat with
    | some l => ['\\', l]
    | none =>
      if Text.isPrintable c then [c]
      else if c.toNat ≤ 0xff then '\\' :: 'x' :: hex 2 c.toNat
      else if c.toNat ≤ 0xffff then '\\' :: 'u' :: hex 4 c.toNat
      else '\\' :: 'U' :: hex 8 c.toNat

def text (s : Text) : Text :=
  let quote := mark (s.contains '\'') (s.contains '"')
  quote :: s.flatMap (character quote) ++ [quote]

/-- Bytes outside printable ASCII are escaped by value. -/
def byte (quote : Char) (b : UInt8) : Text :=
  let c := Char.ofNat b.toNat
  if c = quote ∨ c = '\\' then ['\\', c]
  else match letter? b.toNat with
    | some l => ['\\', l]
    | none => if 0x20 ≤ b ∧ b < 0x7f then [c] else '\\' :: 'x' :: hex 2 b.toNat

def bytes (bs : Bytes) : Text :=
  let quote := mark (bs.contains 0x27) (bs.contains 0x22)
  'b' :: quote :: bs.flatMap (byte quote) ++ [quote]

def list (items : List Text) : Text :=
  '[' :: Text.join [',', ' '] (items.map text) ++ [']']

end LoginReport.Quoted
