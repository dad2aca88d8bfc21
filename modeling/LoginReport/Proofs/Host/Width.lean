import LoginReport.Host.Origin
import LoginReport.Proofs.Results

set_option autoImplicit false

/-!
# The width of origins

Whether it shows a host, an address or an address with its display or interface, the origin fills
its column. A width is refused only if it does not fit a signed machine word.
-/

namespace LoginReport

theorem Column.isWord_iff_of_pos {width : Int} (h : 1 ≤ width) :
    IsWord width ↔ width ≤ greatestWord := by
  have hgreatest : (0 : Int) ≤ greatestWord := by decide
  unfold IsWord
  omega

namespace HostField

/-- Where there is no room, nothing is shown either. -/
theorem suffix_eq_ok_iff {raw : Bytes} {length width : Int} {s : Text} :
    suffix raw length width = .ok s ↔
      width ≤ Column.greatestWord ∧ s = (shownSuffix raw length width).padRight width ' ' := by
  have hshown := length_shownSuffix_le raw length width
  unfold suffix
  generalize shownSuffix raw length width = shown at hshown
  split
  · rename_i hroom
    have hnone : shown = [] := List.eq_nil_of_length_eq_zero (by omega)
    have hword : width ≤ Column.greatestWord := Int.le_trans hroom (by decide)
    simp [hnone, hword, Text.padRight, Int.toNat_of_nonpos hroom, eq_comm]
  · have hblanks : List.replicate (width - shown.length).toNat ' ' =
        Text.padRight [] (width - shown.length) ' ' := rfl
    have hwidth : max (shown.length + ([] : Text).length : Int) width = width := by
      rw [List.length_nil]
      omega
    simp only [bind_eq_ok, Column.blanks_eq_ok_iff, hblanks]
    constructor
    · rintro ⟨_, ⟨-, rfl⟩, hjoined⟩
      rwa [Column.joined_padRight_eq_ok_iff, hwidth, List.append_nil] at hjoined
    · rintro ⟨hword, rfl⟩
      refine ⟨_, ⟨by omega, rfl⟩, Column.joined_padRight_eq_ok_iff.mpr ⟨?_, ?_⟩⟩
      · rwa [hwidth]
      · rw [List.append_nil]

end HostField

theorem RemoteAddress.length_column_le (width : Int) (h : 0 ≤ width)
    (address : Option RemoteAddress) : ((column width address).length : Int) ≤ width := by
  cases address with
  | none => exact h
  | some address =>
    cases address with
    | four bytes =>
      unfold column
      dsimp only
      by_cases hfit : ((text (four bytes)).length : Int) ≤ width
      · rw [if_pos hfit]
        exact hfit
      · rw [if_neg hfit]
        exact h
    | sixteen bytes =>
      change ((Text.cut (text (sixteen bytes)) width).length : Int) ≤ width
      rw [Text.length_cut_of_nonneg _ _ h]
      omega

namespace Origin

variable {session : LoginSession} {host : Bytes} {addresses : Bool} {width : Int}

theorem length_shownAddress_le (session : LoginSession) (addresses : Bool) (h : 0 ≤ width) :
    ((shownAddress session addresses width).length : Int) ≤ width := by
  unfold shownAddress
  split
  · exact RemoteAddress.length_column_le width h _
  · exact h

/-- What the column shows before its blanks: a host name, or an address with its display or
interface. -/
def shown (session : LoginSession) (host : Bytes) (addresses : Bool) (width : Int) : Text :=
  if session.fromRegistry then HostField.shownName host host.length width
  else
    let address := shownAddress session addresses width
    if address.isEmpty then HostField.shownName session.host hostFieldSize width
    else address ++ HostField.shownSuffix session.host hostFieldSize (width - address.length)

theorem length_shown_le (session : LoginSession) (host : Bytes) (addresses : Bool)
    (h : 1 ≤ width) : ((shown session host addresses width).length : Int) ≤ width := by
  have hname : ∀ raw length, ((HostField.shownName raw length width).length : Int) ≤ width := by
    intro raw length
    have hlength := HostField.length_shownName_le raw length width h
    omega
  unfold shown
  split
  · exact hname _ _
  · dsimp only
    split
    · exact hname _ _
    · have haddress := length_shownAddress_le session addresses (by omega : 0 ≤ width)
      have hsuffix := HostField.length_shownSuffix_le session.host hostFieldSize
        (width - (shownAddress session addresses width).length)
      rw [List.length_append]
      omega

/-- An address and what follows it are refused where the whole is too long. -/
theorem joined_suffix_eq_ok_iff {address s : Text} :
    (HostField.suffix session.host hostFieldSize (width - address.length) >>=
        Column.joined address) = .ok s ↔
      max (address.length : Int) width ≤ Column.greatestWord ∧
        s = (address ++ HostField.shownSuffix session.host hostFieldSize
          (width - address.length)).padRight width ' ' := by
  have hshown := HostField.length_shownSuffix_le session.host hostFieldSize
    (width - address.length)
  have hwidth : max (address.length + (HostField.shownSuffix session.host hostFieldSize
      (width - address.length)).length : Int) width = max (address.length : Int) width := by omega
  simp only [bind_eq_ok, HostField.suffix_eq_ok_iff]
  constructor
  · rintro ⟨_, ⟨-, rfl⟩, hjoined⟩
    rwa [Column.joined_padRight_eq_ok_iff, hwidth] at hjoined
  · rintro ⟨hword, rfl⟩
    refine ⟨_, ⟨by omega, rfl⟩, Column.joined_padRight_eq_ok_iff.mpr ⟨?_, rfl⟩⟩
    rwa [hwidth]

/-- A column is what is shown, filled up with blanks. -/
theorem eq_of_ofHost {s : Text} (h : ofHost session host addresses width = .ok s) :
    s = (shown session host addresses width).padRight width ' ' := by
  unfold ofHost at h
  unfold shown
  split at h
  · rename_i hregistry
    rw [if_pos hregistry]
    exact (HostField.name_eq_ok_iff.mp h).2
  · rename_i hregistry
    rw [if_neg hregistry]
    dsimp only at h ⊢
    split at h
    · rename_i hempty
      rw [if_pos hempty]
      exact (HostField.name_eq_ok_iff.mp h).2
    · rename_i hempty
      rw [if_neg hempty]
      exact (joined_suffix_eq_ok_iff.mp h).2

theorem exists_ofHost_iff (h : 1 ≤ width) :
    (∃ s, ofHost session host addresses width = .ok s) ↔ width ≤ Column.greatestWord := by
  unfold ofHost
  split
  · simp only [HostField.name_eq_ok_iff, exists_and_left, exists_eq, and_true,
      Column.isWord_iff_of_pos h]
  · dsimp only
    split
    · simp only [HostField.name_eq_ok_iff, exists_and_left, exists_eq, and_true,
        Column.isWord_iff_of_pos h]
    · have haddress := length_shownAddress_le session addresses (by omega : 0 ≤ width)
      simp only [joined_suffix_eq_ok_iff, exists_and_left, exists_eq, and_true,
        Int.max_eq_right haddress]

theorem length_ofHost (h : 1 ≤ width) {s : Text}
    (hs : ofHost session host addresses width = .ok s) : (s.length : Int) = width := by
  have hlength := length_shown_le session host addresses h
  rw [eq_of_ofHost hs, Text.length_padRight]
  omega

theorem column_ok (session : LoginSession) (addresses : Bool) (h : 1 ≤ width)
    (hword : width ≤ Column.greatestWord) :
    ∃ s, column session addresses width = .ok s ∧ (s.length : Int) = width := by
  obtain ⟨s, hs⟩ := (exists_ofHost_iff h).mpr hword
  exact ⟨s, hs, length_ofHost h hs⟩

end Origin

end LoginReport
