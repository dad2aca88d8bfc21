import LoginReport.Text.Utf8
import Mathlib.Algebra.Order.Ring.Nat

set_option autoImplicit false

/-!
# Characters of several bytes

The first byte of a character and the range of its second keep out the overlong forms and the
surrogates. So a character that was open ends as one that is not ASCII, or is replaced, and decoded
bytes begin with an ASCII character if and only if the bytes begin with its code.
-/

namespace LoginReport.Utf8

/-- The least number that the open character can still become. -/
def Partial.least (p : Partial) : Nat :=
  (p.bits * 64 + (p.low.toNat - 0x80)) * 64 ^ (p.missing - 1)

/-- What the open character stays below. -/
def Partial.bound (p : Partial) : Nat :=
  (p.bits * 64 + (p.high.toNat - 0x80) + 1) * 64 ^ (p.missing - 1)

/-- Something is missing, and only the later bytes of a character can be next. -/
structure Partial.Continues (p : Partial) : Prop where
  missing : 1 ≤ p.missing
  low : 0x80 ≤ p.low.toNat
  high : 0x80 ≤ p.high.toNat ∧ p.high.toNat ≤ 0xbf

instance (p : Partial) : Decidable p.Continues :=
  decidable_of_iff (1 ≤ p.missing ∧ 0x80 ≤ p.low.toNat ∧ 0x80 ≤ p.high.toNat ∧ p.high.toNat ≤ 0xbf)
    ⟨fun ⟨hmissing, hlow, hhigh⟩ => ⟨hmissing, hlow, hhigh⟩,
      fun ⟨hmissing, hlow, hhigh⟩ => ⟨hmissing, hlow, hhigh⟩⟩

theorem continues_continued (bits count : Nat) : (continued bits (count + 1)).Continues :=
  ⟨Nat.succ_pos count, (by decide : 0x80 ≤ (0x80 : UInt8).toNat),
    (by decide : 0x80 ≤ (0xbf : UInt8).toNat ∧ (0xbf : UInt8).toNat ≤ 0xbf)⟩

theorem least_continued (bits count : Nat) :
    (continued bits (count + 1)).least = bits * 64 ^ (count + 1) := by
  have hlow : (0x80 : UInt8).toNat = 0x80 := rfl
  rw [Partial.least, continued, hlow, Nat.sub_self, Nat.add_zero, Nat.add_sub_cancel,
    Nat.mul_assoc, ← Nat.pow_succ']

theorem bound_continued (bits count : Nat) :
    (continued bits (count + 1)).bound = (bits + 1) * 64 ^ (count + 1) := by
  have hhigh : (0xbf : UInt8).toNat - 0x80 = 63 := rfl
  rw [Partial.bound, continued, hhigh, Nat.add_sub_cancel, Nat.add_assoc, ← Nat.succ_mul,
    Nat.mul_assoc, ← Nat.pow_succ']

/-- A first byte as a number. -/
theorem lead_eq (b : UInt8) : lead b =
    if b.toNat < 0x80 then ([Char.ofNat b.toNat], none)
    else if b.toNat < 0xc2 then ([replacement], none)
    else if b.toNat < 0xe0 then ([], some (continued (b.toNat - 0xc0) 1))
    else if b.toNat = 0xe0 then ([], some ⟨0, 2, 0xa0, 0xbf⟩)
    else if b.toNat = 0xed then ([], some ⟨0xd, 2, 0x80, 0x9f⟩)
    else if b.toNat < 0xf0 then ([], some (continued (b.toNat - 0xe0) 2))
    else if b.toNat = 0xf0 then ([], some ⟨0, 3, 0x90, 0xbf⟩)
    else if b.toNat < 0xf4 then ([], some (continued (b.toNat - 0xf0) 3))
    else if b.toNat = 0xf4 then ([], some ⟨4, 3, 0x80, 0x8f⟩)
    else ([replacement], none) := by
  simp only [lead, UInt8.lt_iff_toNat_lt, ← UInt8.toNat_inj, UInt8.reduceToNat]

/-! ## Proper characters -/

/-- However the open character ends, it is a character, and not one of ASCII. -/
structure Partial.IsProper (p : Partial) : Prop extends p.Continues where
  least : 0x80 ≤ p.least
  bound : p.bound ≤ 0xd800 ∨ 0xe000 ≤ p.least ∧ p.bound ≤ 0x110000

theorem isProper_continued {bits count : Nat} (hleast : 0x80 ≤ bits * 64 ^ (count + 1))
    (hbound : (bits + 1) * 64 ^ (count + 1) ≤ 0xd800 ∨
      0xe000 ≤ bits * 64 ^ (count + 1) ∧ (bits + 1) * 64 ^ (count + 1) ≤ 0x110000) :
    (continued bits (count + 1)).IsProper := by
  refine ⟨continues_continued bits count, ?_, ?_⟩
  · rwa [least_continued]
  · rwa [least_continued, bound_continued]

/-- A first byte is ASCII, or it begins no character, or it opens a proper one. -/
theorem lead_cases (b : UInt8) :
    (b.toNat < 0x80 ∧ lead b = ([Char.ofNat b.toNat], none)) ∨
      0x80 ≤ b.toNat ∧
        (lead b = ([replacement], none) ∨ ∃ p, lead b = ([], some p) ∧ p.IsProper) := by
  rw [lead_eq]
  by_cases hascii : b.toNat < 0x80
  · rw [if_pos hascii]
    exact Or.inl ⟨hascii, rfl⟩
  rw [if_neg hascii]
  refine Or.inr ⟨Nat.not_lt.mp hascii, ?_⟩
  by_cases htwo : b.toNat < 0xc2
  · rw [if_pos htwo]
    exact Or.inl rfl
  rw [if_neg htwo]
  by_cases hthree : b.toNat < 0xe0
  · rw [if_pos hthree]
    exact Or.inr ⟨_, rfl, isProper_continued (by omega) (by omega)⟩
  rw [if_neg hthree]
  by_cases he0 : b.toNat = 0xe0
  · rw [if_pos he0]
    exact Or.inr ⟨_, rfl, by decide, by decide, by decide⟩
  rw [if_neg he0]
  by_cases hed : b.toNat = 0xed
  · rw [if_pos hed]
    exact Or.inr ⟨_, rfl, by decide, by decide, by decide⟩
  rw [if_neg hed]
  by_cases hfour : b.toNat < 0xf0
  · rw [if_pos hfour]
    exact Or.inr ⟨_, rfl, isProper_continued (by omega) (by omega)⟩
  rw [if_neg hfour]
  by_cases hf0 : b.toNat = 0xf0
  · rw [if_pos hf0]
    exact Or.inr ⟨_, rfl, by decide, by decide, by decide⟩
  rw [if_neg hf0]
  by_cases hlast : b.toNat < 0xf4
  · rw [if_pos hlast]
    exact Or.inr ⟨_, rfl, isProper_continued (by omega) (by omega)⟩
  rw [if_neg hlast]
  by_cases hf4 : b.toNat = 0xf4
  · rw [if_pos hf4]
    exact Or.inr ⟨_, rfl, by decide, by decide, by decide⟩
  rw [if_neg hf4]
  exact Or.inl rfl

theorem toNat_ofNat_of_valid {v : Nat} (h : v.isValidChar) : (Char.ofNat v).toNat = v := by
  rw [Char.ofNat, dif_pos h]
  rfl

/-- A byte that fits completes what is open or leaves it proper, and one that does not fit closes it
and begins anew. -/
theorem step_of_proper {p : Partial} (hp : p.IsProper) (b : UInt8) :
    (∃ c, step (some p) b = ([c], none) ∧ 0x80 ≤ c.toNat) ∨
      (∃ q, step (some p) b = ([], some q) ∧ q.IsProper) ∨
      step (some p) b = (replacement :: (lead b).1, (lead b).2) := by
  obtain ⟨⟨hmissing, hlow, hhigh⟩, hleast, hbound⟩ := hp
  by_cases hrange : p.low ≤ b ∧ b ≤ p.high
  · have hfits : p.low.toNat ≤ b.toNat ∧ b.toNat ≤ p.high.toNat := hrange
    obtain ⟨count, hcount⟩ := Nat.exists_eq_add_of_le' hmissing
    rw [step, if_pos hrange]
    dsimp only
    generalize hbits : p.bits * 64 + (b.toNat - 0x80) = bits
    have hfrom : p.least ≤ bits * 64 ^ count := by
      rw [Partial.least, hcount, Nat.add_sub_cancel]
      exact Nat.mul_le_mul_right _ (by omega)
    have hto : (bits + 1) * 64 ^ count ≤ p.bound := by
      rw [Partial.bound, hcount, Nat.add_sub_cancel]
      exact Nat.mul_le_mul_right _ (by omega)
    rw [hcount]
    cases count with
    | zero =>
      rw [Nat.pow_zero, Nat.mul_one] at hfrom hto
      have hvalid : bits.isValidChar := by
        unfold Nat.isValidChar
        omega
      refine Or.inl ⟨Char.ofNat bits, if_pos (Nat.le_refl 1), ?_⟩
      rw [toNat_ofNat_of_valid hvalid]
      exact hleast.trans hfrom
    | succ count =>
      have hnext : (continued bits (count + 1)).IsProper :=
        isProper_continued (hleast.trans hfrom) (by omega)
      exact Or.inr (Or.inl ⟨_, if_neg (by omega), hnext⟩)
  · exact Or.inr (Or.inr (by rw [step, if_neg hrange]))

theorem ne_replacement {c : Char} (hascii : c.toNat < 0x80) : c ≠ replacement := by
  rintro rfl
  exact absurd hascii (by decide)

/-! ## The first character -/

/-- An open character ends as one that is not ASCII, or is replaced. -/
theorem head?_decodeFrom_ne {p : Partial} (hp : p.IsProper) (bs : Bytes) {c : Char}
    (hascii : c.toNat < 0x80) : (decodeFrom (some p) bs).head? ≠ some c := by
  have hreplaced : replacement ≠ c := (ne_replacement hascii).symm
  induction bs generalizing p with
  | nil => simpa [decodeFrom] using hreplaced
  | cons b rest ih =>
    rw [decodeFrom]
    rcases step_of_proper hp b with ⟨other, hstep, hwide⟩ | ⟨q, hstep, hq⟩ | hstep
    · rw [hstep]
      intro hc
      have hother : other = c := by simpa using hc
      rw [hother] at hwide
      omega
    · rw [hstep]
      exact ih hq
    · rw [hstep]
      simpa using hreplaced

theorem head?_decode {c : Char} (hascii : c.toNat < 0x80) (bs : Bytes) :
    (decode bs).head? = some c ↔ bs.head? = some (UInt8.ofNat c.toNat) := by
  cases bs with
  | nil => simp
  | cons b rest =>
    rw [decode, decodeFrom, step, List.head?_cons, Option.some.injEq, ← UInt8.toNat_inj,
      UInt8.toNat_ofNat', Nat.mod_eq_of_lt (by omega)]
    rcases lead_cases b with ⟨-, hlead⟩ | ⟨hwide, hlead⟩
    · rw [hlead, List.singleton_append, List.head?_cons, Option.some.injEq]
      constructor
      · rintro rfl
        exact (Text.toNat_ofNat_byte b).symm
      · intro hb
        exact Char.toNat_inj.mp ((Text.toNat_ofNat_byte b).trans hb)
    · have hne : ((lead b).1 ++ decodeFrom (lead b).2 rest).head? ≠ some c := by
        rcases hlead with hlead | ⟨p, hlead, hp⟩
        · rw [hlead]
          simpa using (ne_replacement hascii).symm
        · rw [hlead]
          exact head?_decodeFrom_ne hp rest hascii
      constructor
      · intro hc
        exact absurd hc hne
      · intro hb
        omega

end LoginReport.Utf8
