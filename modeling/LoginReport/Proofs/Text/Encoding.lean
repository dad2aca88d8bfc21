import LoginReport.Proofs.Text.Utf8

set_option autoImplicit false

/-!
# Encoded text

Decoding undoes encoding. Where encoded text is cut inside a character, the beginning of that
character is decoded to one replacement character. No NUL comes out of bytes that have none, and
something comes out of any bytes.
-/

namespace LoginReport.Utf8

/-- The open character can still become the one of this number. -/
structure Partial.Opens (p : Partial) (v : Nat) : Prop extends p.Continues where
  least : p.least ≤ v
  bound : v < p.bound

/-- The last bytes of an encoded character, six bits in each. -/
def sixes : Nat → Nat → Bytes
  | 0, _ => []
  | count + 1, v => UInt8.ofNat (v / 64 ^ count % 64 + 0x80) :: sixes count v

theorem length_sixes (count v : Nat) : (sixes count v).length = count := by
  induction count with
  | zero => rfl
  | succ count ih => rw [sixes, List.length_cons, ih]

/-! ## One character -/

theorem toNat_six (n : Nat) : (UInt8.ofNat (n % 64 + 0x80)).toNat = n % 64 + 0x80 := by
  rw [UInt8.toNat_ofNat', Nat.mod_eq_of_lt (by omega)]

/-- As many bits as are left tell the number from every other one with the same bits before. -/
theorem opens_continued {v count : Nat} (hcount : 1 ≤ count) :
    (continued (v / 64 ^ count) count).Opens v := by
  obtain ⟨count, rfl⟩ := Nat.exists_eq_add_of_le' hcount
  have hpos : 0 < 64 ^ (count + 1) := Nat.pow_pos (by decide)
  refine ⟨continues_continued _ count, ?_, ?_⟩
  · rw [least_continued]
    exact Nat.div_mul_le_self v _
  · rw [bound_continued, Nat.succ_mul]
    exact Nat.lt_div_mul_add hpos

/-- The next six bits fit what is open, and what is open then is as large as it can be told. -/
theorem step_six {p : Partial} {v count : Nat} (h : p.Opens v) (hcount : p.missing = count + 1) :
    step (some p) (UInt8.ofNat (v / 64 ^ count % 64 + 0x80)) =
      if count = 0 then ([Char.ofNat v], none)
      else ([], some (continued (v / 64 ^ count) count)) := by
  obtain ⟨⟨-, hlow, hhigh⟩, hleast, hbound⟩ := h
  have hpos : 0 < 64 ^ count := Nat.pow_pos (by decide)
  rw [Partial.least, hcount, Nat.add_sub_cancel, ← Nat.le_div_iff_mul_le hpos] at hleast
  rw [Partial.bound, hcount, Nat.add_sub_cancel, ← Nat.div_lt_iff_lt_mul hpos] at hbound
  have hbyte := toNat_six (v / 64 ^ count)
  have hrange : p.low ≤ UInt8.ofNat (v / 64 ^ count % 64 + 0x80) ∧
      UInt8.ofNat (v / 64 ^ count % 64 + 0x80) ≤ p.high := by
    rw [UInt8.le_iff_toNat_le, UInt8.le_iff_toNat_le, hbyte]
    omega
  have hbits : p.bits * 64 + ((UInt8.ofNat (v / 64 ^ count % 64 + 0x80)).toNat - 0x80) =
      v / 64 ^ count := by
    rw [hbyte]
    omega
  rw [step, if_pos hrange]
  dsimp only
  rw [hbits, hcount]
  by_cases hlast : count = 0
  · rw [if_pos (by omega), if_pos hlast, hlast, Nat.pow_zero, Nat.div_one]
  · rw [if_neg (by omega), if_neg hlast, Nat.add_sub_cancel]

theorem decodeFrom_sixes {p : Partial} {v : Nat} (h : p.Opens v) (rest : Bytes) :
    decodeFrom (some p) (sixes p.missing v ++ rest) = Char.ofNat v :: decodeFrom none rest := by
  obtain ⟨count, hcount⟩ := Nat.exists_eq_add_of_le' h.missing
  rw [hcount]
  induction count generalizing p with
  | zero =>
    rw [sixes, List.cons_append, decodeFrom, step_six h hcount, if_pos rfl]
    rfl
  | succ count ih =>
    rw [sixes, List.cons_append, decodeFrom, step_six h hcount, if_neg (Nat.succ_ne_zero count)]
    exact ih (opens_continued (Nat.succ_pos count)) rfl

theorem decodeFrom_take_sixes {p : Partial} {v n : Nat} (h : p.Opens v) (hn : n < p.missing) :
    decodeFrom (some p) ((sixes p.missing v).take n) = [replacement] := by
  obtain ⟨count, hcount⟩ := Nat.exists_eq_add_of_le' h.missing
  rw [hcount] at hn ⊢
  induction count generalizing p n with
  | zero =>
    obtain rfl : n = 0 := by omega
    rfl
  | succ count ih =>
    cases n with
    | zero => rfl
    | succ n =>
      rw [sixes, List.take_succ_cons, decodeFrom, step_six h hcount,
        if_neg (Nat.succ_ne_zero count)]
      exact ih (opens_continued (Nat.succ_pos count)) (Nat.lt_of_succ_lt_succ hn) rfl

theorem opens_lead_two {b : UInt8} {v : Nat} (hb : b.toNat = v / 64 + 0xc0) (hlow : 0x80 ≤ v)
    (hhigh : v < 0x800) : ∃ p, lead b = ([], some p) ∧ p.missing = 1 ∧ p.Opens v := by
  rw [lead_eq, hb, if_neg (by omega), if_neg (by omega), if_pos (by omega), Nat.add_sub_cancel]
  exact ⟨_, rfl, rfl, opens_continued (Nat.le_refl 1)⟩

theorem opens_lead_three {b : UInt8} {v : Nat} (hb : b.toNat = v / 64 ^ 2 + 0xe0)
    (hlow : 0x800 ≤ v) (hhigh : v < 0x10000) (hvalid : v.isValidChar) :
    ∃ p, lead b = ([], some p) ∧ p.missing = 2 ∧ p.Opens v := by
  simp only [Nat.isValidChar] at hvalid
  rw [lead_eq, hb, if_neg (by omega), if_neg (by omega), if_neg (by omega)]
  split_ifs
  · exact ⟨_, rfl, rfl, by decide, (by omega : 0x800 ≤ v), (by omega : v < 0x1000)⟩
  · exact ⟨_, rfl, rfl, by decide, (by omega : 0xd000 ≤ v), (by omega : v < 0xd800)⟩
  · rw [Nat.add_sub_cancel]
    exact ⟨_, rfl, rfl, opens_continued (by decide)⟩
  all_goals omega

theorem opens_lead_four {b : UInt8} {v : Nat} (hb : b.toNat = v / 64 ^ 3 + 0xf0)
    (hlow : 0x10000 ≤ v) (hhigh : v < 0x110000) :
    ∃ p, lead b = ([], some p) ∧ p.missing = 3 ∧ p.Opens v := by
  rw [lead_eq, hb, if_neg (by omega), if_neg (by omega), if_neg (by omega), if_neg (by omega),
    if_neg (by omega), if_neg (by omega)]
  split_ifs
  · exact ⟨_, rfl, rfl, by decide, (by omega : 0x10000 ≤ v), (by omega : v < 0x40000)⟩
  · rw [Nat.add_sub_cancel]
    exact ⟨_, rfl, rfl, opens_continued (by decide)⟩
  · exact ⟨_, rfl, rfl, by decide, (by omega : 0x100000 ≤ v), (by omega : v < 0x110000)⟩
  · omega

/-- An encoded character is one byte, or a first byte that opens it and its last bits. -/
theorem encodeChar_cases (c : Char) :
    (c.toNat < 0x80 ∧ String.utf8EncodeChar c = [UInt8.ofNat c.toNat]) ∨
      ∃ b p, lead b = ([], some p) ∧ p.Opens c.toNat ∧
        String.utf8EncodeChar c = b :: sixes p.missing c.toNat := by
  have hvalid : c.toNat.isValidChar := c.valid
  have hsmall : c.toNat < 0x110000 := by
    simp only [Nat.isValidChar] at hvalid
    omega
  unfold String.utf8EncodeChar
  dsimp only
  rw [← Char.toNat]
  by_cases hone : c.toNat ≤ 0x7f
  · rw [if_pos hone]
    exact Or.inl ⟨by omega, rfl⟩
  right
  rw [if_neg hone]
  by_cases htwo : c.toNat ≤ 0x7ff
  · rw [if_pos htwo]
    obtain ⟨p, hlead, hmissing, hopens⟩ :=
      opens_lead_two (b := UInt8.ofNat (c.toNat / 64 % 32 + 0xc0)) (v := c.toNat)
        (by rw [UInt8.toNat_ofNat']; omega) (by omega) (by omega)
    refine ⟨_, p, hlead, hopens, ?_⟩
    rw [hmissing, sixes, sixes, Nat.pow_zero, Nat.div_one]
  rw [if_neg htwo]
  by_cases hthree : c.toNat ≤ 0xffff
  · rw [if_pos hthree]
    obtain ⟨p, hlead, hmissing, hopens⟩ :=
      opens_lead_three (b := UInt8.ofNat (c.toNat / 4096 % 16 + 0xe0)) (v := c.toNat)
        (by rw [UInt8.toNat_ofNat']; omega) (by omega) (by omega) hvalid
    refine ⟨_, p, hlead, hopens, ?_⟩
    rw [hmissing, sixes, sixes, sixes, Nat.pow_zero, Nat.div_one, Nat.pow_one]
  · rw [if_neg hthree]
    obtain ⟨p, hlead, hmissing, hopens⟩ :=
      opens_lead_four (b := UInt8.ofNat (c.toNat / 262144 % 8 + 0xf0)) (v := c.toNat)
        (by rw [UInt8.toNat_ofNat']; omega) (by omega) hsmall
    refine ⟨_, p, hlead, hopens, ?_⟩
    rw [hmissing, sixes, sixes, sixes, sixes, Nat.pow_zero, Nat.div_one, Nat.pow_one]
    rfl

/-! ## Text -/

/-- An encoded character is decoded to itself, whatever follows it. -/
theorem decode_encodeChar_append (c : Char) (rest : Bytes) :
    decode (String.utf8EncodeChar c ++ rest) = c :: decode rest := by
  rcases encodeChar_cases c with ⟨hascii, hone⟩ | ⟨b, p, hlead, hopens, hmore⟩
  · have hbyte : (UInt8.ofNat c.toNat).toNat = c.toNat := by
      rw [UInt8.toNat_ofNat']
      omega
    rw [hone, List.singleton_append, decode, decodeFrom, step, lead_eq, hbyte, if_pos hascii,
      Char.ofNat_toNat]
    rfl
  · rw [hmore, List.cons_append, decode, decodeFrom, step, hlead, List.nil_append,
      decodeFrom_sixes hopens, Char.ofNat_toNat]
    rfl

theorem decode_encode_append (s : Text) (rest : Bytes) :
    decode (encode s ++ rest) = s ++ decode rest := by
  induction s with
  | nil => rfl
  | cons c s ih =>
    rw [encode_cons, List.append_assoc, decode_encodeChar_append, ih, List.cons_append]

theorem decode_encode (s : Text) : decode (encode s) = s := by
  have h := decode_encode_append s []
  rwa [List.append_nil, decode_nil, List.append_nil] at h

/-- The beginning of a character that does not end is replaced. -/
theorem decode_take_encodeChar {c : Char} {n : Nat} (hpos : 0 < n)
    (hn : n < (String.utf8EncodeChar c).length) :
    decode ((String.utf8EncodeChar c).take n) = [replacement] := by
  obtain ⟨n, rfl⟩ := Nat.exists_eq_add_of_le' hpos
  rcases encodeChar_cases c with ⟨-, hone⟩ | ⟨b, p, hlead, hopens, hmore⟩
  · rw [hone, List.length_singleton] at hn
    omega
  · rw [hmore, List.length_cons, length_sixes] at hn
    rw [hmore, List.take_succ_cons, decode, decodeFrom, step, hlead, List.nil_append]
    exact decodeFrom_take_sixes hopens (Nat.lt_of_succ_lt_succ hn)

/-! ## Text that is cut -/

theorem encode_append (s t : Text) : encode (s ++ t) = encode s ++ encode t :=
  List.flatMap_append

theorem decode_take_of_whole {whole : Text} (rest : Text) {size : Nat}
    (h : (encode whole).length = size) :
    decode ((encode (whole ++ rest)).take size) = whole := by
  rw [encode_append, List.take_left' h, decode_encode]

theorem decode_take_of_cut {whole : Text} (rest : Text) {c : Char} {size : Nat}
    (hlow : (encode whole).length < size)
    (hhigh : size < (encode whole).length + (String.utf8EncodeChar c).length) :
    decode ((encode (whole ++ c :: rest)).take size) = whole ++ [replacement] := by
  rw [encode_append, List.take_append, List.take_of_length_le hlow.le, decode_encode_append,
    encode_cons, List.take_append_of_le_length (by omega),
    decode_take_encodeChar (by omega) (by omega)]

/-- The characters that are whole in so many bytes: all of them, or they fill the bytes, or the next
one is cut. -/
theorem exists_cut (s : Text) (size : Nat) :
    ∃ whole rest, s = whole ++ rest ∧ (encode whole).length ≤ size ∧
      (rest = [] ∨ (encode whole).length = size ∨
        ∃ c more, rest = c :: more ∧ (encode whole).length < size ∧
          size < (encode whole).length + (String.utf8EncodeChar c).length) := by
  induction s generalizing size with
  | nil => exact ⟨[], [], rfl, Nat.zero_le size, Or.inl rfl⟩
  | cons c s ih =>
    by_cases hfits : (String.utf8EncodeChar c).length ≤ size
    · obtain ⟨whole, rest, rfl, hwhole, hcut⟩ := ih (size - (String.utf8EncodeChar c).length)
      refine ⟨c :: whole, rest, rfl, ?_, ?_⟩
      · rw [encode_cons, List.length_append]
        omega
      · rw [encode_cons, List.length_append]
        rcases hcut with hrest | hfull | ⟨next, more, hrest, hlow, hhigh⟩
        · exact Or.inl hrest
        · exact Or.inr (Or.inl (by omega))
        · exact Or.inr (Or.inr ⟨next, more, hrest, by omega, by omega⟩)
    · refine ⟨[], c :: s, rfl, Nat.zero_le size, Or.inr ?_⟩
      rw [encode_nil, List.length_nil]
      by_cases hzero : size = 0
      · exact Or.inl hzero.symm
      · exact Or.inr ⟨c, s, rfl, by omega, by omega⟩

/-! ## Bytes without a NUL -/

/-- An ASCII character that a byte adds is that of the byte, and what it leaves open is proper. -/
structure IsFaithful (b : UInt8) (result : Text × Option Partial) : Prop where
  ascii : ∀ c ∈ result.1, c.toNat < 0x80 → b.toNat = c.toNat
  next : ∀ p ∈ result.2, p.IsProper

theorem isFaithful_lead (b : UInt8) : IsFaithful b (lead b) := by
  rcases lead_cases b with ⟨-, hlead⟩ | ⟨-, hlead | ⟨p, hlead, hp⟩⟩
  · rw [hlead]
    refine ⟨?_, by simp⟩
    intro c hc _
    rw [List.mem_singleton.mp hc, Text.toNat_ofNat_byte]
  · rw [hlead]
    refine ⟨?_, by simp⟩
    intro c hc hascii
    exact absurd (List.mem_singleton.mp hc) (ne_replacement hascii)
  · rw [hlead]
    exact ⟨by simp, by simpa using hp⟩

theorem isFaithful_step {state : Option Partial} (hstate : ∀ p ∈ state, p.IsProper) (b : UInt8) :
    IsFaithful b (step state b) := by
  have hlead := isFaithful_lead b
  cases state with
  | none => exact hlead
  | some p =>
    rcases step_of_proper (hstate p rfl) b with ⟨c, hstep, hwide⟩ | ⟨q, hstep, hq⟩ | hstep
    · rw [hstep]
      refine ⟨?_, by simp⟩
      intro d hd hascii
      rw [List.mem_singleton.mp hd] at hascii
      omega
    · rw [hstep]
      exact ⟨by simp, by simpa using hq⟩
    · rw [hstep]
      refine ⟨?_, hlead.next⟩
      intro c hc hascii
      rcases List.mem_cons.mp hc with hc | hc
      · exact absurd hc (ne_replacement hascii)
      · exact hlead.ascii c hc hascii

/-- By the bytes: no step adds an ASCII character that was not there. -/
theorem exists_byte_of_mem_decodeFrom {state : Option Partial} (hstate : ∀ p ∈ state, p.IsProper)
    {bs : Bytes} {c : Char} (hascii : c.toNat < 0x80) (h : c ∈ decodeFrom state bs) :
    ∃ b ∈ bs, b.toNat = c.toNat := by
  induction bs generalizing state with
  | nil =>
    cases state with
    | none => cases h
    | some p => exact absurd (List.mem_singleton.mp h) (ne_replacement hascii)
  | cons b rest ih =>
    have hstep := isFaithful_step hstate b
    rcases List.mem_append.mp h with hhere | hlater
    · exact ⟨b, List.mem_cons_self, hstep.ascii c hhere hascii⟩
    · obtain ⟨other, hother, hc⟩ := ih hstep.next hlater
      exact ⟨other, List.mem_cons_of_mem b hother, hc⟩

theorem nul_not_mem_decode {bs : Bytes} (h : 0 ∉ bs) : '\x00' ∉ decode bs := by
  intro hmem
  obtain ⟨b, hb, hzero⟩ := exists_byte_of_mem_decodeFrom (by simp) (by decide) hmem
  have hb0 : b = 0 := UInt8.toNat_inj.mp hzero
  exact h (hb0 ▸ hb)

theorem decodeFrom_some_ne_nil (p : Partial) (bs : Bytes) : decodeFrom (some p) bs ≠ [] := by
  induction bs generalizing p with
  | nil => exact List.cons_ne_nil _ _
  | cons b rest ih =>
    rw [decodeFrom, step]
    split
    · dsimp only
      split
      · exact List.cons_ne_nil _ _
      · exact ih _
    · exact List.cons_ne_nil _ _

theorem decode_ne_nil {bs : Bytes} (h : bs ≠ []) : decode bs ≠ [] := by
  obtain ⟨b, rest, rfl⟩ := List.exists_cons_of_ne_nil h
  rw [decode, decodeFrom, step]
  rcases lead_cases b with ⟨-, hlead⟩ | ⟨-, hlead | ⟨p, hlead, -⟩⟩
  · rw [hlead]
    exact List.cons_ne_nil _ _
  · rw [hlead]
    exact List.cons_ne_nil _ _
  · rw [hlead]
    exact decodeFrom_some_ne_nil p rest

theorem wide_of_mem_sixes {count v : Nat} {b : UInt8} (h : b ∈ sixes count v) :
    0x80 ≤ b.toNat := by
  induction count with
  | zero => cases h
  | succ count ih =>
    rcases List.mem_cons.mp h with rfl | h
    · rw [toNat_six]
      omega
    · exact ih h

theorem nul_not_mem_encode {s : Text} (h : '\x00' ∉ s) : 0 ∉ encode s := by
  intro hmem
  obtain ⟨c, hc, hbyte⟩ := List.mem_flatMap.mp hmem
  rcases encodeChar_cases c with ⟨hascii, hone⟩ | ⟨b, p, hlead, -, hmore⟩
  · rw [hone, List.mem_singleton] at hbyte
    have hzero : c.toNat = 0 := by
      have hnat := congrArg UInt8.toNat hbyte
      rw [UInt8.toNat_ofNat', Nat.mod_eq_of_lt (by omega)] at hnat
      exact hnat.symm
    have hnul : c = '\x00' := Char.toNat_inj.mp hzero
    exact h (hnul ▸ hc)
  · rw [hmore, List.mem_cons] at hbyte
    rcases hbyte with rfl | hbyte
    · cases hlead
    · exact absurd (wide_of_mem_sixes hbyte) (by decide)

end LoginReport.Utf8
