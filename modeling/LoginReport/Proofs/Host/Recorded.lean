import LoginReport.Host.Origin
import LoginReport.Proofs.Machine

set_option autoImplicit false

/-!
# Addresses as they are recorded

An address of four bytes is recorded in a plain or in a mapped field, and one of sixteen bytes fills
the field. Every field of sixteen bytes records one address or none: it is read as the one that was
recorded, and four zeros are no address in either field.
-/

namespace LoginReport

namespace RemoteAddress

/-- No address, in four bytes. -/
def unset : Bytes := List.replicate 4 0

def plainField (bytes : Bytes) : Bytes := bytes ++ List.replicate 12 0

def mappedField (bytes : Bytes) : Bytes := mappedMark ++ bytes

/-- An address that a field can record. One of sixteen bytes is no address of four in disguise. -/
def IsRecorded : RemoteAddress → Prop
  | four bytes => bytes.length = 4 ∧ bytes ≠ unset
  | sixteen bytes => bytes.length = 16 ∧ bytes.take 12 ≠ mappedMark ∧ ∃ b ∈ bytes.drop 4, b ≠ 0

/-- The fields that an address may be recorded in. -/
inductive Records : Bytes → RemoteAddress → Prop where
  | plain (bytes : Bytes) : Records (plainField bytes) (four bytes)
  | mapped (bytes : Bytes) : Records (mappedField bytes) (four bytes)
  | whole (bytes : Bytes) : Records bytes (sixteen bytes)

/-- The fields without an address. -/
def IsUnset (field : Bytes) : Prop := field = plainField unset ∨ field = mappedField unset

variable {bytes field : Bytes}

theorem fill_of_length (h : field.length = 16) : fill field = field := by
  rw [fill, List.take_append_of_le_length (by omega), List.take_of_length_le (by omega)]

theorem length_plainField (h : bytes.length = 4) : (plainField bytes).length = 16 := by
  simp [plainField, h]

theorem length_mappedField (h : bytes.length = 4) : (mappedField bytes).length = 16 := by
  simp [mappedField, mappedMark, h]

theorem unmap_of_not_mapped (h : field.take 12 ≠ mappedMark) : unmap field = field := by
  rw [unmap, if_neg h]

theorem unmap_mappedField (h : bytes.length = 4) :
    unmap (mappedField bytes) = plainField bytes := by
  have htake : (mappedField bytes).take 12 = mappedMark := List.take_left' rfl
  have hdrop : (mappedField bytes).drop 12 = bytes := List.drop_left' rfl
  rw [unmap, if_pos htake, hdrop, List.take_of_length_le (by omega)]
  rfl

/-- The mark of the mapped form ends where a plain field has zeros. -/
theorem take_plainField_ne (h : bytes.length ≤ 4) : (plainField bytes).take 12 ≠ mappedMark := by
  intro htake
  have hten := congrArg (fun l : Bytes => l[10]?) htake
  rw [List.getElem?_take_of_lt (by omega), plainField,
    List.getElem?_append_right (by omega), List.getElem?_replicate_of_lt (by omega)] at hten
  exact absurd (Option.some.inj hten) (by decide)

/-- What is read of a field is read of its plain form. -/
theorem unmap_unmap (field : Bytes) : unmap (unmap field) = unmap field := by
  by_cases h : field.take 12 = mappedMark
  · have hplain : unmap field = plainField ((field.drop 12).take 4) := by
      rw [unmap, if_pos h]
      rfl
    rw [hplain]
    exact unmap_of_not_mapped (take_plainField_ne (List.length_take_le _ _))
  · rw [unmap_of_not_mapped h, unmap_of_not_mapped h]

theorem eq_mappedField_of_take (hlength : field.length = 16) (h : field.take 12 = mappedMark) :
    ∃ bytes, bytes.length = 4 ∧ field = mappedField bytes := by
  refine ⟨field.drop 12, ?_, ?_⟩
  · rw [List.length_drop, hlength]
  · rw [mappedField, ← h, List.take_append_drop]

theorem eq_zeros {n : Nat} (hlength : bytes.length = n) (h : ¬∃ b ∈ bytes, b ≠ 0) :
    bytes = List.replicate n 0 := by
  refine List.eq_replicate_iff.mpr ⟨hlength, ?_⟩
  intro b hb
  exact Classical.not_not.mp fun hne => h ⟨b, hb, hne⟩

theorem eq_plainField_of_zeros (hlength : field.length = 16) (h : ¬∃ b ∈ field.drop 4, b ≠ 0) :
    ∃ bytes, bytes.length = 4 ∧ field = plainField bytes := by
  have hrest : (field.drop 4).length = 12 := by rw [List.length_drop, hlength]
  refine ⟨field.take 4, ?_, ?_⟩
  · rw [List.length_take, hlength]
    rfl
  · rw [plainField, ← eq_zeros hrest h, List.take_append_drop]

/-! ## What is read -/

theorem ofField_of_wide (h : ∃ b ∈ (unmap (fill field)).drop 4, b ≠ 0) :
    ofField field = some (sixteen (unmap (fill field))) := by
  have hany : ((unmap (fill field)).drop 4).any (· != 0) = true := by simpa using h
  rw [ofField, if_pos hany]

theorem ofField_of_plain (hlength : bytes.length = 4) (h : unmap (fill field) = plainField bytes) :
    ofField field = if bytes = unset then none else some (four bytes) := by
  have htake : (plainField bytes).take 4 = bytes := List.take_left' hlength
  have hdrop : (plainField bytes).drop 4 = List.replicate 12 0 := List.drop_left' hlength
  have hnarrow : ¬(List.replicate 12 (0 : UInt8)).any (· != 0) = true := by decide
  unfold ofField
  rw [h]
  dsimp only
  rw [hdrop, if_neg hnarrow, htake]
  by_cases hunset : bytes = unset
  · subst hunset
    rfl
  · have hset : ∃ b ∈ bytes, b ≠ 0 :=
      Classical.byContradiction fun hnone => hunset (eq_zeros hlength hnone)
    have hany : bytes.any (· != 0) = true := by simpa using hset
    rw [if_pos hany, if_neg hunset]

theorem ofField_of_records {address : RemoteAddress} (haddress : address.IsRecorded)
    (h : Records (fill field) address) : ofField field = some address := by
  generalize hfill : fill field = filled at h
  cases h with
  | plain bytes =>
    obtain ⟨hlength, hset⟩ := haddress
    have hplain : unmap (fill field) = plainField bytes := by
      rw [hfill, unmap_of_not_mapped (take_plainField_ne (Nat.le_of_eq hlength))]
    rw [ofField_of_plain hlength hplain, if_neg hset]
  | mapped bytes =>
    obtain ⟨hlength, hset⟩ := haddress
    have hplain : unmap (fill field) = plainField bytes := by
      rw [hfill, unmap_mappedField hlength]
    rw [ofField_of_plain hlength hplain, if_neg hset]
  | whole =>
    obtain ⟨hlength, hmapped, hwide⟩ := haddress
    have hwhole : unmap (fill field) = filled := by rw [hfill, unmap_of_not_mapped hmapped]
    rw [ofField_of_wide (by rwa [hwhole]), hwhole]

theorem ofField_of_isUnset (h : IsUnset (fill field)) : ofField field = none := by
  have hplain : unmap (fill field) = plainField unset := by
    rcases h with hfill | hfill
    · rw [hfill, unmap_of_not_mapped (take_plainField_ne (by decide))]
    · rw [hfill, unmap_mappedField (by decide)]
  rw [ofField_of_plain (by decide) hplain, if_pos rfl]

theorem records_or_isUnset (hlength : field.length = 16) :
    (∃ address : RemoteAddress, address.IsRecorded ∧ Records field address) ∨ IsUnset field := by
  by_cases hmapped : field.take 12 = mappedMark
  · obtain ⟨bytes, hbytes, rfl⟩ := eq_mappedField_of_take hlength hmapped
    by_cases hunset : bytes = unset
    · rw [hunset]
      exact Or.inr (Or.inr rfl)
    · exact Or.inl ⟨four bytes, ⟨hbytes, hunset⟩, .mapped bytes⟩
  · by_cases hwide : ∃ b ∈ field.drop 4, b ≠ 0
    · exact Or.inl ⟨sixteen field, ⟨hlength, hmapped, hwide⟩, .whole field⟩
    · obtain ⟨bytes, hbytes, rfl⟩ := eq_plainField_of_zeros hlength hwide
      by_cases hunset : bytes = unset
      · rw [hunset]
        exact Or.inr (Or.inl rfl)
      · exact Or.inl ⟨four bytes, ⟨hbytes, hunset⟩, .plain bytes⟩

theorem ofField_eq_some_iff {address : RemoteAddress} :
    ofField field = some address ↔ address.IsRecorded ∧ Records (fill field) address := by
  constructor
  · intro h
    rcases records_or_isUnset (length_fill field) with ⟨other, hother, hrecords⟩ | hunset
    · rw [ofField_of_records hother hrecords] at h
      obtain rfl := Option.some.inj h
      exact ⟨hother, hrecords⟩
    · rw [ofField_of_isUnset hunset] at h
      cases h
  · rintro ⟨haddress, hrecords⟩
    exact ofField_of_records haddress hrecords

/-- Both fields of four bytes are read alike, also where they hold no address. -/
theorem ofField_mappedField (h : bytes.length = 4) :
    ofField (mappedField bytes) = ofField (plainField bytes) := by
  have hmapped : fill (mappedField bytes) = mappedField bytes :=
    fill_of_length (length_mappedField h)
  have hplain : fill (plainField bytes) = plainField bytes := fill_of_length (length_plainField h)
  have hsame : unmap (plainField bytes) = plainField bytes :=
    unmap_of_not_mapped (take_plainField_ne (Nat.le_of_eq h))
  unfold ofField
  rw [hmapped, hplain, unmap_mappedField h, hsame]

theorem ofField_plainField (hlength : bytes.length = 4) (hset : bytes ≠ unset) :
    ofField (plainField bytes) = some (four bytes) := by
  refine ofField_eq_some_iff.mpr ⟨⟨hlength, hset⟩, ?_⟩
  rw [fill_of_length (length_plainField hlength)]
  exact .plain bytes

theorem ofField_whole (hlength : bytes.length = 16) (hmapped : bytes.take 12 ≠ mappedMark)
    (hwide : ∃ b ∈ bytes.drop 4, b ≠ 0) : ofField bytes = some (sixteen bytes) := by
  refine ofField_eq_some_iff.mpr ⟨⟨hlength, hmapped, hwide⟩, ?_⟩
  rw [fill_of_length hlength]
  exact .whole bytes

theorem ofField_plainField_unset : ofField (plainField unset) = none :=
  ofField_of_isUnset (Or.inl (fill_of_length (length_plainField (by decide))))

end RemoteAddress

theorem Origin.column_congr_address (session : LoginSession) {field other : Bytes}
    (h : RemoteAddress.ofField field = RemoteAddress.ofField other) (addresses : Bool)
    (width : Int) :
    column { session with address := field } addresses width =
      column { session with address := other } addresses width := by
  unfold column ofHost shownAddress
  dsimp only
  rw [h]
  rfl

namespace RemoteAddress

/-- Reading gives back the address that was recorded, and nothing but such an address. -/
theorem ofField_recorded :
    (∀ bytes : Bytes, bytes.length = 4 → bytes ≠ unset →
        ofField (plainField bytes) = some (four bytes) ∧
          ofField (mappedField bytes) = some (four bytes)) ∧
      (∀ bytes : Bytes, bytes.length = 16 → bytes.take 12 ≠ mappedMark →
        (∃ b ∈ bytes.drop 4, b ≠ 0) → ofField bytes = some (sixteen bytes)) ∧
      (ofField (List.replicate 16 0) = none ∧ ofField (mappedField unset) = none) ∧
      (∀ field address, ofField field = some address →
        address ≠ four unset ∧ ∀ bytes, address = sixteen bytes → bytes.take 12 ≠ mappedMark) ∧
      (∀ field, unmap (unmap field) = unmap field) ∧
      ∀ (session : LoginSession) (bytes : Bytes), bytes.length = 4 →
        ∀ addresses width,
          Origin.column { session with address := plainField bytes } addresses width =
            Origin.column { session with address := mappedField bytes } addresses width := by
  refine ⟨?_, ?_, ⟨ofField_plainField_unset, ?_⟩, ?_, unmap_unmap, ?_⟩
  · intro bytes hlength hset
    have hplain := ofField_plainField hlength hset
    exact ⟨hplain, (ofField_mappedField hlength).trans hplain⟩
  · intro bytes hlength hmapped hwide
    exact ofField_whole hlength hmapped hwide
  · exact (ofField_mappedField (by decide)).trans ofField_plainField_unset
  · intro field address h
    obtain ⟨hrecorded, -⟩ := ofField_eq_some_iff.mp h
    constructor
    · rintro rfl
      exact hrecorded.2 rfl
    · rintro bytes rfl
      exact hrecorded.2.1
  · intro session bytes hlength addresses width
    exact Origin.column_congr_address session (ofField_mappedField hlength).symm addresses width

/-- The address 10.0.0.7 in both of its fields, and `2001:db8::42`. -/
theorem ofField_recorded_private_and_documented :
    ([10, 0, 0, 7] : Bytes).length = 4 ∧ ([10, 0, 0, 7] : Bytes) ≠ unset ∧
      ofField (plainField [10, 0, 0, 7]) = some (four [10, 0, 0, 7]) ∧
      ofField (mappedField [10, 0, 0, 7]) = some (four [10, 0, 0, 7]) ∧
      ofField [0x20, 1, 0xd, 0xb8, 0, 0, 0, 0, 0, 0, 0, 0, 0, 0, 0, 0x42] =
        some (sixteen [0x20, 1, 0xd, 0xb8, 0, 0, 0, 0, 0, 0, 0, 0, 0, 0, 0, 0x42]) ∧
      Origin.column { LoginSession.ofLeader 1000 100 with
          address := plainField [10, 0, 0, 7] } true 12 =
        Origin.column { LoginSession.ofLeader 1000 100 with
          address := mappedField [10, 0, 0, 7] } true 12 := by
  obtain ⟨hfour, hsixteen, -, -, -, hcolumn⟩ := ofField_recorded
  obtain ⟨hplain, hmapped⟩ := hfour [10, 0, 0, 7] rfl (by decide)
  exact ⟨rfl, by decide, hplain, hmapped,
    hsixteen _ rfl (by decide) ⟨0x42, by decide, by decide⟩,
    hcolumn (.ofLeader 1000 100) [10, 0, 0, 7] rfl true 12⟩

end RemoteAddress

end LoginReport
