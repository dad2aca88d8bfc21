import LoginReport.Text.Basic

set_option autoImplicit false

/-!
# UTF-8

Decoding never fails: each maximal run of bytes that begins a character without completing one,
and each byte that begins none, is replaced by one replacement character.
-/

namespace LoginReport.Utf8

def replacement : Char := '\uFFFD'

/-- An open character: its bits so far, how many bytes are missing, the range of the next one. -/
structure Partial where
  bits : Nat
  missing : Nat
  low : UInt8
  high : UInt8
deriving DecidableEq, Repr

def continued (bits missing : Nat) : Partial := ⟨bits, missing, 0x80, 0xbf⟩

/-- The first byte of a character decides its length and the range of its second byte, which
keeps out overlong forms, surrogates and values beyond the last character. -/
def lead (b : UInt8) : Text × Option Partial :=
  if b < 0x80 then ([Char.ofNat b.toNat], none)
  else if b < 0xc2 then ([replacement], none)
  else if b < 0xe0 then ([], some (continued (b.toNat - 0xc0) 1))
  else if b = 0xe0 then ([], some ⟨0, 2, 0xa0, 0xbf⟩)
  else if b = 0xed then ([], some ⟨0xd, 2, 0x80, 0x9f⟩)
  else if b < 0xf0 then ([], some (continued (b.toNat - 0xe0) 2))
  else if b = 0xf0 then ([], some ⟨0, 3, 0x90, 0xbf⟩)
  else if b < 0xf4 then ([], some (continued (b.toNat - 0xf0) 3))
  else if b = 0xf4 then ([], some ⟨4, 3, 0x80, 0x8f⟩)
  else ([replacement], none)

/-- What one byte adds to the text, and the character left open after it. -/
def step (state : Option Partial) (b : UInt8) : Text × Option Partial :=
  match state with
  | none => lead b
  | some p =>
    if p.low ≤ b ∧ b ≤ p.high then
      let bits := p.bits * 64 + (b.toNat - 0x80)
      if p.missing ≤ 1 then ([Char.ofNat bits], none)
      else ([], some (continued bits (p.missing - 1)))
    else (replacement :: (lead b).1, (lead b).2)

def decodeFrom (state : Option Partial) : Bytes → Text
  | [] => if state.isSome then [replacement] else []
  | b :: rest => (step state b).1 ++ decodeFrom (step state b).2 rest

def decode (bs : Bytes) : Text := decodeFrom none bs

def encode (s : Text) : Bytes := s.flatMap String.utf8EncodeChar

@[simp] theorem decode_nil : decode [] = [] := rfl

@[simp] theorem encode_nil : encode [] = [] := rfl

@[simp] theorem encode_cons (c : Char) (s : Text) :
    encode (c :: s) = String.utf8EncodeChar c ++ encode s := rfl

/-- An open character counts for one: decoding never gives more characters than bytes. -/
theorem length_decodeFrom_le (state : Option Partial) (bs : Bytes) :
    (decodeFrom state bs).length ≤ bs.length + (if state.isSome then 1 else 0) := by
  have hlead : ∀ b, (lead b).1.length + (if (lead b).2.isSome then 1 else 0) ≤ 1 := by
    intro b
    unfold lead
    repeat' split
    all_goals simp_all
  induction bs generalizing state with
  | nil => unfold decodeFrom; split <;> simp
  | cons b rest ih =>
    have hstep : (step state b).1.length + (if (step state b).2.isSome then 1 else 0) ≤
        1 + (if state.isSome then 1 else 0) := by
      have hb := hlead b
      unfold step
      split
      · simpa using hb
      · split
        · split <;> simp
        · simp only [List.length_cons, Option.isSome_some, if_true]
          omega
    have hr := ih (step state b).2
    simp only [decodeFrom, List.length_append, List.length_cons]
    omega

theorem length_decode_le (bs : Bytes) : (decode bs).length ≤ bs.length := by
  simpa [decode] using length_decodeFrom_le none bs

end LoginReport.Utf8
