import LoginReport.Proofs.Host.Width
import LoginReport.Proofs.Machine
import LoginReport.Proofs.Text.Ascii
import LoginReport.Proofs.Text.Loose

set_option autoImplicit false

/-!
# What an origin shows

Host names, addresses, displays and interfaces are cut out of raw bytes in different ways. Each of
them is visible, so an origin is a visible text that is never empty, and blanks. There is one unless
the width fits no machine word or the name of the remote host has no bytes.
-/

namespace LoginReport

namespace RemoteAddress

theorem visible_joinGroups (groups : List Nat) : Text.Visible (joinGroups groups) := by
  refine Text.visible_join (by decide) _ ?_
  intro part hpart
  obtain ⟨group, -, rfl⟩ := List.mem_map.mp hpart
  exact Text.visible_toDigits (by decide) group

theorem visible_groupText (groups : List Nat) : Text.Visible (groupText groups) := by
  have hcolons : Text.Visible [':', ':'] := by decide
  unfold groupText
  dsimp only
  split
  · exact ((visible_joinGroups _).append hcolons).append (visible_joinGroups _)
  · exact visible_joinGroups groups

theorem visible_text (address : RemoteAddress) : Text.Visible (text address) := by
  cases address with
  | four bytes =>
    refine Text.visible_join (by decide) _ ?_
    intro part hpart
    obtain ⟨b, -, rfl⟩ := List.mem_map.mp hpart
    exact Text.visible_ofNat b.toNat
  | sixteen bytes => exact visible_groupText (groups bytes)

theorem visible_column (width : Int) (address : Option RemoteAddress) :
    Text.Visible (column width address) := by
  have hnone : Text.Visible [] := by decide
  cases address with
  | none => exact hnone
  | some address =>
    cases address with
    | four bytes =>
      unfold column
      dsimp only
      split
      · exact visible_text (four bytes)
      · exact hnone
    | sixteen bytes => exact (visible_text (sixteen bytes)).cut width

end RemoteAddress

namespace HostField

theorem visible_copy (raw : Bytes) : Text.Visible (copy raw) :=
  fun c hc => copy_visible raw c hc

theorem visible_shownName (raw : Bytes) (length width : Int) :
    Text.Visible (shownName raw length width) := by
  have hcopy := visible_copy (raw.take (min length width).toNat)
  unfold shownName
  cases hshown : copy (raw.take (min length width).toNat) with
  | nil => decide
  | cons c rest =>
    rw [hshown] at hcopy
    exact hcopy

theorem visible_shownSuffix (raw : Bytes) (length width : Int) :
    Text.Visible (shownSuffix raw length width) := by
  unfold shownSuffix
  split
  · decide
  · exact visible_copy _

end HostField

namespace Origin

variable {session : LoginSession} {host : Bytes} {addresses : Bool} {width : Int} {s : Text}

theorem visible_shownAddress (session : LoginSession) (addresses : Bool) (width : Int) :
    Text.Visible (shownAddress session addresses width) := by
  unfold shownAddress
  split
  · exact RemoteAddress.visible_column width _
  · decide

theorem visible_shown (session : LoginSession) (host : Bytes) (addresses : Bool) (width : Int) :
    Text.Visible (shown session host addresses width) := by
  unfold shown
  split
  · exact HostField.visible_shownName _ _ _
  · dsimp only
    split
    · exact HostField.visible_shownName _ _ _
    · exact (visible_shownAddress session addresses width).append
        (HostField.visible_shownSuffix _ _ _)

theorem shown_ne_nil (session : LoginSession) (host : Bytes) (addresses : Bool) (width : Int) :
    shown session host addresses width ≠ [] := by
  unfold shown
  split
  · exact HostField.orDash_ne_nil _
  · dsimp only
    split
    · exact HostField.orDash_ne_nil _
    · rename_i hempty
      exact fun hnil => hempty (List.isEmpty_iff.mpr (List.append_eq_nil_iff.mp hnil).1)

theorem printable_ofHost (h : ofHost session host addresses width = .ok s) :
    Text.Printable s := by
  rw [eq_of_ofHost h]
  exact (visible_shown session host addresses width).printable.append (Text.printable_blanks _)

theorem first_ofHost (h : ofHost session host addresses width = .ok s) :
    ∃ first rest, s = first :: rest ∧ first ≠ ' ' := by
  obtain ⟨first, rest, hshown⟩ :=
    List.exists_cons_of_ne_nil (shown_ne_nil session host addresses width)
  have hvisible := visible_shown session host addresses width
  rw [eq_of_ofHost h, hshown]
  refine ⟨first, _, rfl, ?_⟩
  rintro rfl
  rw [hshown] at hvisible
  exact absurd (hvisible ' ' List.mem_cons_self) (by decide)

/-! ## Any name of a remote host -/

/-- The name of the remote host is asked for, and has bytes. -/
theorem exists_hostBytes_iff {remoteHost : Option LooseText} :
    (∃ host, hostBytes session remoteHost = .ok host) ↔
      (session.fromRegistry = true → (remoteHost.getD []).IsEncodable) := by
  unfold hostBytes
  split
  · rename_i hregistry
    rw [Utf8.exists_encodeLoose_iff]
    exact ⟨fun h _ => h, fun h => h hregistry⟩
  · rename_i hregistry
    exact ⟨fun _ h => absurd h hregistry, fun _ => ⟨[], rfl⟩⟩

theorem columnFor_eq_ok_iff {remoteHost : Option LooseText} :
    columnFor session remoteHost addresses width = .ok s ↔
      ∃ host, hostBytes session remoteHost = .ok host ∧
        ofHost session host addresses width = .ok s := by
  unfold columnFor
  simp only [bind_eq_ok, mapError_eq_ok]

/-- Without surrogates in the name of the host, the column is that of the session. -/
theorem columnFor_ofText (session : LoginSession) (addresses : Bool) (width : Int) :
    columnFor session (session.remoteHost.map LooseText.ofText) addresses width =
      (column session addresses width).mapError Fault.width := by
  have hhost : (session.remoteHost.map LooseText.ofText).getD [] =
      LooseText.ofText (session.remoteHost.getD []) := by
    cases session.remoteHost <;> rfl
  unfold columnFor hostBytes column ofHost
  split
  · rw [hhost, Utf8.encodeLoose_ofText]
    rfl
  · rfl

/-- Whatever the origin of a session is, its column has the width, nothing but printable ASCII and
no blank at its beginning. There is one exactly if the width fits a machine word and the name of a
remote host has bytes; a name without surrogates has, and the column is the one that rows show. -/
theorem column_fills (session : LoginSession) (remoteHost : Option LooseText) (addresses : Bool)
    (width : Int) (hwidth : 1 ≤ width) :
    ((∃ s, columnFor session remoteHost addresses width = .ok s) ↔
        width ≤ Column.greatestWord ∧
          (session.fromRegistry = true → (remoteHost.getD []).IsEncodable)) ∧
      (∀ s, columnFor session remoteHost addresses width = .ok s →
        (s.length : Int) = width ∧ (∀ c ∈ s, 0x20 ≤ c.toNat ∧ c.toNat ≤ 0x7e) ∧
          ∃ first rest, s = first :: rest ∧ first ≠ ' ') ∧
      columnFor session (session.remoteHost.map LooseText.ofText) addresses width =
        (column session addresses width).mapError Fault.width := by
  refine ⟨?_, ?_, columnFor_ofText session addresses width⟩
  · rw [← exists_hostBytes_iff]
    simp only [columnFor_eq_ok_iff]
    constructor
    · rintro ⟨s, host, hhost, hs⟩
      exact ⟨(exists_ofHost_iff hwidth).mp ⟨s, hs⟩, host, hhost⟩
    · rintro ⟨hword, host, hhost⟩
      obtain ⟨s, hs⟩ := (exists_ofHost_iff hwidth).mpr hword
      exact ⟨s, host, hhost, hs⟩
  · intro s h
    obtain ⟨host, -, hs⟩ := columnFor_eq_ok_iff.mp h
    refine ⟨length_ofHost hwidth hs, ?_, first_ofHost hs⟩
    intro c hc
    obtain ⟨hlow, hhigh⟩ := printable_ofHost hs c hc
    omega

/-- A session of the record file with an address and a display. -/
def withDisplay : LoginSession :=
  { LoginSession.ofLeader 1000 100 with
    host := [0x3a, 0x30]
    address := [10, 0, 0, 1] ++ List.replicate 12 0 }

def inRegistry : LoginSession := { LoginSession.ofLeader 1000 100 with identifier := some ['1'] }

/-- An address with its display, and a host whose name has the escaped byte 0xc3 in it. -/
theorem column_fills_address_and_display :
    (1 : Int) ≤ 12 ∧ columnFor withDisplay none true 12 = .ok "10.0.0.1:0  ".toList ∧
      ("10.0.0.1:0  ".toList.length : Int) = 12 ∧
      ∃ s, columnFor inRegistry (some [.character 'a', .surrogate 0x4c3]) false 12 = .ok s ∧
        (s.length : Int) = 12 := by
  have hdisplay : columnFor withDisplay none true 12 = .ok "10.0.0.1:0  ".toList := rfl
  obtain ⟨-, haddress, -⟩ := column_fills withDisplay none true 12 (by decide)
  obtain ⟨hreturns, hshown, -⟩ :=
    column_fills inRegistry (some [.character 'a', .surrogate 0x4c3]) false 12 (by decide)
  obtain ⟨s, hs⟩ := hreturns.mpr ⟨by decide, fun _ => by decide⟩
  exact ⟨by decide, hdisplay, (haddress _ hdisplay).1, s, hs, (hshown s hs).1⟩

/-- There is no column where a surrogate stands for no byte, and none of a width that is beyond
every machine word. -/
theorem column_refused :
    columnFor inRegistry (some [.surrogate 0]) false 16 = .error (.encoding ⟨0xd800, 0, 0⟩) ∧
      (∀ s, columnFor inRegistry (some [.surrogate 0]) false 16 ≠ .ok s) ∧
      ∀ s, columnFor { LoginSession.ofLeader 1000 100 with host := [0x61, 0x62] } none false
        0x10000000000000000 ≠ .ok s := by
  have hencoding : columnFor inRegistry (some [.surrogate 0]) false 16 =
      .error (.encoding ⟨0xd800, 0, 0⟩) := rfl
  have hword : columnFor { LoginSession.ofLeader 1000 100 with host := [0x61, 0x62] } none false
      0x10000000000000000 = .error (.width .beyondWord) := rfl
  refine ⟨hencoding, ?_, ?_⟩
  · intro s h
    rw [hencoding] at h
    cases h
  · intro s h
    rw [hword] at h
    cases h

end Origin

end LoginReport
