import LoginReport.Text.Loose

set_option autoImplicit false

/-!
# Which strings have bytes

A string has bytes exactly if all of its surrogates stand for bytes. Text has no surrogates, and its
bytes are those that it has as text.
-/

namespace LoginReport

/-- Every surrogate stands for a byte. -/
def LooseText.IsEncodable (s : LooseText) : Prop :=
  ∀ point ∈ s, point.isSurrogate = true → 0xdc80 ≤ point.number ∧ point.number ≤ 0xdcff

instance LooseText.decidableIsEncodable (s : LooseText) : Decidable s.IsEncodable :=
  inferInstanceAs (Decidable
    (∀ point ∈ s, point.isSurrogate = true → 0xdc80 ≤ point.number ∧ point.number ≤ 0xdcff))

theorem CodePoint.exists_bytes?_iff {point : CodePoint} :
    (∃ bytes, point.bytes? = some bytes) ↔
      (point.isSurrogate = true → 0xdc80 ≤ point.number ∧ point.number ≤ 0xdcff) := by
  cases point with
  | character c => simp [bytes?, isSurrogate]
  | surrogate index => simp [bytes?, isSurrogate]

namespace Utf8

/-- By the code points: the first that has no bytes ends the encoding. -/
theorem exists_encodeFrom_iff (place : Nat) (s : LooseText) :
    (∃ bytes, encodeFrom place s = .ok bytes) ↔ s.IsEncodable := by
  induction s generalizing place with
  | nil => exact ⟨fun _ => List.forall_mem_nil _, fun _ => ⟨[], rfl⟩⟩
  | cons point rest ih =>
    rw [LooseText.IsEncodable, List.forall_mem_cons, ← CodePoint.exists_bytes?_iff,
      ← LooseText.IsEncodable, ← ih (place + 1), encodeFrom]
    cases point.bytes? with
    | none => simp
    | some bytes => cases encodeFrom (place + 1) rest <;> simp [Except.map]

theorem exists_encodeLoose_iff {s : LooseText} :
    (∃ bytes, encodeLoose s = .ok bytes) ↔ s.IsEncodable :=
  exists_encodeFrom_iff 0 s

theorem encodeFrom_ofText (place : Nat) (s : Text) :
    encodeFrom place (LooseText.ofText s) = .ok (encode s) := by
  induction s generalizing place with
  | nil => rfl
  | cons c s ih =>
    change (encodeFrom (place + 1) (LooseText.ofText s)).map _ = _
    rw [ih]
    rfl

theorem encodeLoose_ofText (s : Text) : encodeLoose (LooseText.ofText s) = .ok (encode s) :=
  encodeFrom_ofText 0 s

end Utf8

end LoginReport
