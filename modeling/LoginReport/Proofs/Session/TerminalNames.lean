import LoginReport.Proofs.Text.Ascii
import LoginReport.Session.Source

set_option autoImplicit false

/-!
# The terminal names of sessions

A terminal's name is the longest beginning of what its source calls the terminal that has only
letters, digits and slashes. Both sources of sessions take it so, and no session comes from them
with a name of other characters.
-/

namespace LoginReport

namespace Terminal

def IsNameChar (c : Char) : Prop :=
  ('A' ≤ c ∧ c ≤ 'Z') ∨ ('a' ≤ c ∧ c ≤ 'z') ∨ ('0' ≤ c ∧ c ≤ '9') ∨ c = '/'

/-- The longest beginning of a line that has only letters, digits and slashes. -/
structure IsNameOf (line name : Text) : Prop where
  beginning : name <+: line
  chars : ∀ c ∈ name, IsNameChar c
  longest : ∀ other : Text, other <+: line → (∀ c ∈ other, IsNameChar c) → other <+: name

theorem isAlphanum_or_slash_iff (c : Char) : (c.isAlphanum || c == '/') = true ↔ IsNameChar c := by
  have hupper : c.isUpper = true ↔ 'A' ≤ c ∧ c ≤ 'Z' := decide_eq_true_iff
  have hlower : c.isLower = true ↔ 'a' ≤ c ∧ c ≤ 'z' :=
    Bool.and_eq_true_iff.trans (and_congr decide_eq_true_iff decide_eq_true_iff)
  have hdigit : c.isDigit = true ↔ '0' ≤ c ∧ c ≤ '9' :=
    Bool.and_eq_true_iff.trans (and_congr decide_eq_true_iff decide_eq_true_iff)
  have hclasses : c.isAlphanum = ((c.isUpper || c.isLower) || c.isDigit) := rfl
  rw [hclasses, Bool.or_eq_true, Bool.or_eq_true, Bool.or_eq_true, hupper, hlower, hdigit,
    beq_iff_eq, or_assoc, or_assoc]
  exact Iff.rfl

theorem clean_isNameOf (line : Text) : IsNameOf line (clean line) := by
  refine ⟨List.takeWhile_prefix _, ?_, ?_⟩
  · intro c hc
    have hall := List.all_eq_true.mp List.all_takeWhile c hc
    exact (isAlphanum_or_slash_iff c).mp hall
  · rintro other ⟨rest, rfl⟩ hchars
    have hall : ∀ c ∈ other, (c.isAlphanum || c == '/') = true := by
      intro c hc
      exact (isAlphanum_or_slash_iff c).mpr (hchars c hc)
    rw [clean, List.takeWhile_append_of_pos hall]
    exact List.prefix_append _ _

theorem IsNameChar.printable {c : Char} (h : IsNameChar c) : 0x20 ≤ c.toNat ∧ c.toNat < 0x7f := by
  rcases h with h | h | h | rfl
  · exact ⟨Nat.le_trans (by decide) h.1, Nat.lt_of_le_of_lt h.2 (by decide)⟩
  · exact ⟨Nat.le_trans (by decide) h.1, Nat.lt_of_le_of_lt h.2 (by decide)⟩
  · exact ⟨Nat.le_trans (by decide) h.1, Nat.lt_of_le_of_lt h.2 (by decide)⟩
  · decide

theorem printable_clean (line : Text) : Text.Printable (clean line) := by
  intro c hc
  exact ((clean_isNameOf line).chars c hc).printable

end Terminal

namespace SessionListing

theorem mem_sessions_append {first second : SessionListing} {session : LoginSession}
    (h : session ∈ (first.append second).sessions) :
    session ∈ first.sessions ∨ session ∈ second.sessions := by
  unfold append at h
  split at h
  · exact Or.inl h
  · rw [sessions, List.filterMap_append, List.mem_append] at h
    exact h

end SessionListing

namespace RecordFile

variable {machine : Machine} {path : Text}

theorem sessions_listing {data : Bytes} (h : machine.contents path = .ok data) :
    (listing machine path).sessions = sessions data := by
  rw [listing, h, SessionListing.sessions, List.filterMap_map]
  exact List.filterMap_some

/-- Every session of the file is read from a record of its own. -/
theorem exists_of_mem_listing {found : LoginSession}
    (h : found ∈ (listing machine path).sessions) :
    ∃ data, machine.contents path = .ok data ∧
      ∃ record ∈ records data, isSession record = true ∧ found = session record := by
  cases hdata : machine.contents path with
  | ok data =>
    rw [sessions_listing hdata] at h
    obtain ⟨record, hrecord, rfl⟩ := List.mem_map.mp h
    obtain ⟨hmem, hlogin⟩ := List.mem_filter.mp hrecord
    exact ⟨data, rfl, record, hmem, hlogin, rfl⟩
  | error fault =>
    rw [listing, hdata] at h
    dsimp only at h
    split at h <;> cases h

end RecordFile

namespace Registry

/-- The session is one of this identifier, and has a user name. -/
def IsSessionOf (identifier : Text) (found : LoginSession) : Prop :=
  ∃ username startTime entries, username ≠ [] ∧
    found = session identifier username startTime entries

theorem isSessionOf_of_mem_read {boot : Binary64} {identifier output : Text}
    {found : LoginSession} (h : found ∈ (read boot identifier output).sessions) :
    IsSessionOf identifier found := by
  unfold read at h
  dsimp only at h
  split at h
  · cases h
  · rename_i hne
    split at h
    · cases h
    · exact ⟨_, _, _, hne, List.mem_singleton.mp h⟩

theorem isSessionOf_of_mem_lookUp {machine : Machine} {program : Text} {boot : Binary64}
    {identifier : Text} {found : LoginSession}
    (h : found ∈ (lookUp machine program boot identifier).sessions) :
    IsSessionOf identifier found := by
  rcases SessionListing.mem_sessions_append h with h | h
  · cases h
  · split at h
    · cases h
    · cases h
    · exact isSessionOf_of_mem_read h

/-- By the recursion of the look-ups: every session was read from one of them. -/
theorem exists_of_mem_lookUpAll {machine : Machine} {program : Text} {boot : Binary64}
    {ids : List Text} {found : LoginSession}
    (h : found ∈ (lookUpAll machine program boot ids).sessions) :
    ∃ identifier ∈ ids, IsSessionOf identifier found := by
  induction ids with
  | nil => cases h
  | cons identifier rest ih =>
    rcases SessionListing.mem_sessions_append h with h | h
    · exact ⟨identifier, List.mem_cons_self, isSessionOf_of_mem_lookUp h⟩
    · obtain ⟨other, hother, hfound⟩ := ih h
      exact ⟨other, List.mem_cons_of_mem identifier hother, hfound⟩

/-- Every session of the registry is one of an identifier that the registry lists. -/
theorem exists_of_mem_listing {machine : Machine} {program : Text} {found : LoginSession}
    (h : found ∈ (listing machine program).sessions) :
    ∃ output, machine.output (listCommand program) = .ok output ∧
      ∃ identifier ∈ identifiers output, IsSessionOf identifier found := by
  unfold listing at h
  split at h
  · cases h
  · rcases SessionListing.mem_sessions_append h with h | h
    · cases h
    · split at h
      · cases h
      · cases h
      · rename_i output houtput
        exact ⟨output, houtput, exists_of_mem_lookUpAll h⟩

end Registry

namespace SessionSource

theorem cleaned_of_mem_listing (machine : Machine) (source : SessionSource)
    (session : LoginSession) (h : session ∈ (source.listing machine).sessions) :
    ∃ name, session.tty = Terminal.clean name := by
  cases source with
  | recordFile path =>
    obtain ⟨_, -, record, -, -, rfl⟩ := RecordFile.exists_of_mem_listing h
    exact ⟨_, rfl⟩
  | registry program =>
    obtain ⟨_, -, identifier, -, username, startTime, entries, -, rfl⟩ :=
      Registry.exists_of_mem_listing h
    exact ⟨_, rfl⟩

theorem printable_tty_of_mem_listing (machine : Machine) (source : SessionSource)
    (session : LoginSession) (h : session ∈ (source.listing machine).sessions) :
    Text.Printable session.tty := by
  obtain ⟨name, hname⟩ := cleaned_of_mem_listing machine source session h
  rw [hname]
  exact Terminal.printable_clean name

end SessionSource

end LoginReport
