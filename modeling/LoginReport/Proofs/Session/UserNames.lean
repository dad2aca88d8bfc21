import LoginReport.Proofs.Session.RoundTrip
import LoginReport.Proofs.Text.Encoding

set_option autoImplicit false

/-!
# Finding a user's sessions

The user field of a record has room for so many bytes of the encoded name, and as many characters
of the name are compared with what is decoded from them. The two are the same where the compared
characters fit the field, and hardly ever where they do not.
-/

namespace LoginReport

namespace Utf8

/-- Of a text that is cut to so many bytes, as many characters as that come back: they fit, or the
only one that is cut is itself the replacement of a cut character. -/
def SurvivesCut (size : Nat) (s : Text) : Prop :=
  (encode (s.take size)).length ≤ size ∨
    ∃ whole, s.take size = whole ++ [replacement] ∧ (encode whole).length < size

theorem length_le_length_encode (s : Text) : s.length ≤ (encode s).length := by
  have h := length_decode_le (encode s)
  rwa [decode_encode] at h

/-- A text that is longer than what fits has a character to a byte in the part that fits. -/
theorem decode_take_of_fits {size : Nat} {s : Text} (h : (encode (s.take size)).length ≤ size) :
    decode ((encode s).take size) = s.take size := by
  by_cases hlong : s.length ≤ size
  · rw [List.take_of_length_le hlong] at h ⊢
    rw [List.take_of_length_le h, decode_encode]
  · have hleast := length_le_length_encode (s.take size)
    rw [List.length_take_of_le (by omega)] at hleast
    have hcut := decode_take_of_whole (s.drop size) (Nat.le_antisymm h hleast)
    rwa [List.take_append_drop] at hcut

theorem decode_take_encode_eq_iff (size : Nat) (s : Text) :
    decode ((encode s).take size) = s.take size ↔ SurvivesCut size s := by
  constructor
  · intro h
    obtain ⟨whole, rest, rfl, hfits, hrest | hfull | ⟨c, more, hrest, hlow, hhigh⟩⟩ :=
      exists_cut s size
    · left
      have hlength := length_le_length_encode whole
      rw [hrest, List.append_nil, List.take_of_length_le (by omega)]
      exact hfits
    · left
      rw [← h, decode_take_of_whole rest hfull]
      exact hfits
    · right
      rw [hrest, decode_take_of_cut more hlow hhigh] at h
      exact ⟨whole, by rw [hrest, h], hlow⟩
  · rintro (hfits | ⟨whole, htake, hlow⟩)
    · exact decode_take_of_fits hfits
    · by_cases hfits : (encode (s.take size)).length ≤ size
      · exact decode_take_of_fits hfits
      · have hsplit : s = whole ++ replacement :: s.drop size := by
          rw [← List.singleton_append, ← List.append_assoc, ← htake, List.take_append_drop]
        have hhigh : size <
            (encode whole).length + (String.utf8EncodeChar replacement).length := by
          rw [htake, encode_append, encode_cons, encode_nil, List.append_nil,
            List.length_append] at hfits
          omega
        have hcut := decode_take_of_cut (s.drop size) hlow hhigh
        rwa [← hsplit, ← htake] at hcut

end Utf8

namespace RecordFile

theorem toList_zeroFilled (size : Nat) (bytes : Bytes) :
    (zeroFilled bytes : Vector UInt8 size).toList =
      bytes.take size ++ List.replicate (size - bytes.length) 0 :=
  rfl

theorem text_zeroFilled {size : Nat} {bytes : Bytes} (h : 0 ∉ bytes) :
    text (zeroFilled bytes : Vector UInt8 size).toList = Utf8.decode (bytes.take size) := by
  have hbytes : ∀ b ∈ bytes.take size, (b != 0) = true := by
    intro b hb
    rw [bne_iff_ne]
    rintro rfl
    exact h (List.mem_of_mem_take hb)
  have hzeros : (List.replicate (size - bytes.length) (0 : UInt8)).takeWhile (· != 0) = [] := by
    rw [List.takeWhile_replicate]
    rfl
  rw [text, toList_zeroFilled, List.takeWhile_append_of_pos hbytes, hzeros, List.append_nil]

/-- The record of a user process that stores the name, as much of it as the field has room for. -/
structure IsLoginOf (record : Bytes) (name : Text) : Prop where
  kind : kind record = userProcess
  user : user record = (zeroFilled (Utf8.encode name) : Vector UInt8 userFieldSize).toList

variable {record : Bytes} {name : Text}

theorem IsLoginOf.isSession (h : IsLoginOf record name) (hname : name ≠ [])
    (hnul : '\x00' ∉ name) : isSession record = true := by
  have hne : Utf8.encode name ≠ [] := by
    have hlength := Utf8.length_le_length_encode name
    have hpos := List.length_pos_iff.mpr hname
    exact List.length_pos_iff.mp (by omega)
  obtain ⟨b, rest, hbytes⟩ := List.exists_cons_of_ne_nil hne
  have hhead : b ≠ 0 := by
    rintro rfl
    exact Utf8.nul_not_mem_encode hnul (hbytes ▸ List.mem_cons_self)
  have htake : (b :: rest).take userFieldSize = b :: rest.take 31 := rfl
  rw [RecordFile.isSession, h.kind, h.user, toList_zeroFilled, hbytes, htake, List.cons_append,
    List.headD_cons]
  simpa using hhead

theorem IsLoginOf.username (h : IsLoginOf record name) (hnul : '\x00' ∉ name) :
    (session record).username = Utf8.decode ((Utf8.encode name).take userFieldSize) := by
  rw [session, h.user, text_zeroFilled (Utf8.nul_not_mem_encode hnul)]

/-- The user's own session is the user's if and only if the compared characters survive. -/
theorem isOf_own_iff (record : Bytes) (name : Text) (hname : name ≠ []) (hnul : '\x00' ∉ name)
    (h : IsLoginOf record name) :
    isSession record = true ∧
      ((session record).isOf (some name) = true ↔ Utf8.SurvivesCut userFieldSize name) := by
  refine ⟨h.isSession hname hnul, ?_⟩
  have hlength : ((session record).username).length ≤ userFieldSize := by
    rw [h.username hnul]
    refine (Utf8.length_decode_le _).trans ?_
    exact List.length_take_le _ _
  have hregistry : (session record).fromRegistry = false := rfl
  rw [LoginSession.isOf, hregistry, if_neg Bool.false_ne_true, beq_iff_eq,
    List.take_of_length_le hlength, h.username hnul, Utf8.decode_take_encode_eq_iff]

/-- A login of the user of that name. -/
def loginOf (name : Text) : Bytes :=
  { bootRecord with kind := 7, user := zeroFilled (Utf8.encode name) : LoginRecord }.encode

theorem isLoginOf_loginOf (name : Text) : IsLoginOf (loginOf name) name :=
  ⟨kind_encode _, user_encode _⟩

theorem isOf_own_long_name :
    (List.replicate 40 'a' ≠ [] ∧ '\x00' ∉ List.replicate 40 'a' ∧
      IsLoginOf (loginOf (List.replicate 40 'a')) (List.replicate 40 'a')) ∧
      (session (loginOf (List.replicate 40 'a'))).isOf (some (List.replicate 40 'a')) = true := by
  have hname : List.replicate 40 'a' ≠ [] := by decide
  have hnul : '\x00' ∉ List.replicate 40 'a' := by decide
  have hlogin := isLoginOf_loginOf (List.replicate 40 'a')
  refine ⟨⟨hname, hnul, hlogin⟩, ?_⟩
  exact (isOf_own_iff _ _ hname hnul hlogin).2.mpr (Or.inl (by decide))

/-- Of seventeen characters of two bytes each, the field has room for sixteen. -/
theorem accented_name_not_found :
    (List.replicate 17 'é' ≠ [] ∧ '\x00' ∉ List.replicate 17 'é' ∧
      IsLoginOf (loginOf (List.replicate 17 'é')) (List.replicate 17 'é')) ∧
      isSession (loginOf (List.replicate 17 'é')) = true ∧
      (session (loginOf (List.replicate 17 'é'))).isOf (some (List.replicate 17 'é')) = false := by
  have hname : List.replicate 17 'é' ≠ [] := by decide
  have hnul : '\x00' ∉ List.replicate 17 'é' := by decide
  have hlogin := isLoginOf_loginOf (List.replicate 17 'é')
  refine ⟨⟨hname, hnul, hlogin⟩, hlogin.isSession hname hnul, ?_⟩
  rw [LoginSession.isOf, hlogin.username hnul]
  decide

end RecordFile

end LoginReport
