import LoginReport.Text.Quoted
import LoginReport.Text.Utf8

set_option autoImplicit false

/-!
# Text with surrogates

Surrogates are no characters, but a string may hold them. Those from U+DC80 to U+DCFF stand for
bytes that could not be decoded, and encoding gives the bytes back. It refuses all other surrogates.
-/

namespace LoginReport

/-- A code point of a string: a character, or one of the surrogates from U+D800 on. -/
inductive CodePoint where
  | character (c : Char)
  | surrogate (index : Fin 0x800)
deriving DecidableEq, Repr

abbrev LooseText := List CodePoint

namespace CodePoint

def number : CodePoint → Nat
  | character c => c.toNat
  | surrogate index => 0xd800 + index.val

def isSurrogate : CodePoint → Bool
  | character _ => false
  | surrogate _ => true

/-- The bytes of a character, or the one byte that a surrogate stands for. -/
def bytes? (point : CodePoint) : Option Bytes :=
  match point with
  | character c => some (String.utf8EncodeChar c)
  | surrogate _ =>
    if 0xdc80 ≤ point.number ∧ point.number ≤ 0xdcff then
      some [UInt8.ofNat (point.number - 0xdc00)]
    else none

end CodePoint

/-- Text as a string without surrogates. -/
def LooseText.ofText (s : Text) : LooseText := s.map .character

/-- Why a string has no bytes: the number of a surrogate that stands for none, and the places of the
first and the last surrogate from there on. -/
structure EncodeFault where
  number : Nat
  first : Nat
  last : Nat
deriving DecidableEq, Repr

def EncodeFault.message (fault : EncodeFault) : Text :=
  let place :=
    if fault.first = fault.last then
      " '\\u".toList ++ Quoted.hex 4 fault.number ++ "' in position ".toList ++
        Text.ofNat fault.first
    else "s in position ".toList ++ Text.ofNat fault.first ++ ['-'] ++ Text.ofNat fault.last
  "'utf-8' codec can't encode character".toList ++ place ++ ": surrogates not allowed".toList

namespace Utf8

/-- The bytes of a string whose first code point has this place. -/
def encodeFrom (place : Nat) : LooseText → Except EncodeFault Bytes
  | [] => .ok []
  | point :: rest =>
    match point.bytes? with
    | some bytes => (encodeFrom (place + 1) rest).map (bytes ++ ·)
    | none =>
      .error ⟨point.number, place, place + (rest.takeWhile CodePoint.isSurrogate).length⟩

def encodeLoose (s : LooseText) : Except EncodeFault Bytes := encodeFrom 0 s

end Utf8

end LoginReport
