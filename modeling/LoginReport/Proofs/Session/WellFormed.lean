import LoginReport.Proofs.Session.Enumeration
import LoginReport.Proofs.Session.RoundTrip
import LoginReport.Proofs.Text.Control
import LoginReport.Proofs.Text.Encoding
import LoginReport.Proofs.Text.Lines

set_option autoImplicit false

/-!
# Well-formed sessions

Whatever bytes a record file holds and whatever the registry prints, a session has a user name and
a terminal's name that leads to plain paths only. A session of the record file has fields of the
sizes of its record, and one of the registry has a word for its identifier and a login process.
-/

namespace LoginReport

namespace Terminal

/-- All that is looked at for a name: an absolute name as it is, and the places where terminals
stand. The idle time is looked for in the first of these places. -/
def lookups (name : Text) : List Text :=
  (if isAbsolute name then [name] else []) ++ paths name

/-- No part of the path leads upwards or is hidden, and no character of it controls anything. -/
structure IsPlainPath (path : Text) : Prop where
  dot : '.' ∉ path
  nul : '\x00' ∉ path
  printable : Text.Printable path

/-- The number and the idle time of the name are found with a look at plain paths and at nothing
else. -/
structure LooksAtPlainPaths (name : Text) : Prop where
  plain : ∀ path ∈ lookups name, IsPlainPath path
  number : ∀ machine other : Machine,
    (∀ path ∈ lookups name, other.device path = machine.device path) →
      Terminal.number other name = Terminal.number machine name
  idle : ∀ machine other : Machine,
    (∀ path ∈ lookups name, other.device path = machine.device path) →
      ∀ now, idleSeconds other name now = idleSeconds machine name now

end Terminal

namespace LoginSession

/-- What every session has, wherever it comes from. -/
structure IsWellFormed (session : LoginSession) : Prop where
  username : session.username ≠ []
  tty : ∀ c ∈ session.tty, Terminal.IsNameChar c
  paths : Terminal.LooksAtPlainPaths session.tty

structure IsRecorded (session : LoginSession) : Prop where
  width : session.username.length ≤ userFieldSize
  nul : '\x00' ∉ session.username
  host : session.host.length = hostFieldSize
  address : session.address.length = addressFieldSize
  source : session.fromRegistry = false

structure IsRegistered (session : LoginSession) : Prop where
  identifier : ∃ identifier, session.identifier = some identifier ∧ identifier ≠ [] ∧
    ∀ c ∈ identifier, Text.isBlank c = false
  source : session.fromRegistry = true
  leader : session.leader ≠ 0

end LoginSession

/-- What the source gives to its sessions beyond what every session has. -/
def SessionSource.Marks : SessionSource → LoginSession → Prop
  | recordFile _ => LoginSession.IsRecorded
  | registry _ => LoginSession.IsRegistered

/-! ## Paths -/

namespace Terminal

variable {machine other : Machine} {name path : Text}

theorem not_isNameChar_dot : ¬IsNameChar '.' := by
  rw [← isAlphanum_or_slash_iff]
  decide

theorem isPlainPath_of_chars (h : ∀ c ∈ path, IsNameChar c) : IsPlainPath path := by
  have hprintable : Text.Printable path := fun c hc => (h c hc).printable
  refine ⟨?_, ?_, hprintable⟩
  · intro hdot
    exact not_isNameChar_dot (h '.' hdot)
  · exact hprintable.not_mem (Or.inl (by decide))

/-- The places are a name with letters and slashes in front of it. -/
theorem chars_of_mem_lookups (h : ∀ c ∈ name, IsNameChar c) (hpath : path ∈ lookups name) :
    ∀ c ∈ path, IsNameChar c := by
  have hplace : ∀ place : Text, (place.all fun c => c.isAlphanum || c == '/') = true →
      ∀ c ∈ place ++ name, IsNameChar c := by
    intro place hall c hc
    rcases List.mem_append.mp hc with hc | hc
    · exact (isAlphanum_or_slash_iff c).mp (List.all_eq_true.mp hall c hc)
    · exact h c hc
  rcases List.mem_append.mp hpath with habsolute | hplaced
  · split at habsolute
    · obtain rfl := List.mem_singleton.mp habsolute
      exact h
    · cases habsolute
  · rw [paths, List.mem_cons, List.mem_cons, List.mem_singleton] at hplaced
    rcases hplaced with rfl | rfl | rfl
    · exact hplace _ rfl
    · exact hplace _ rfl
    · exact hplace _ rfl

section Congr

variable (h : ∀ path ∈ lookups name, other.device path = machine.device path)

include h

theorem absoluteDevice_congr : absoluteDevice other name = absoluteDevice machine name := by
  unfold absoluteDevice
  by_cases habsolute : isAbsolute name = true
  · have hmem : name ∈ lookups name := by
      rw [lookups, if_pos habsolute]
      exact List.mem_cons_self
    rw [if_pos habsolute, if_pos habsolute, h name hmem]
  · rw [if_neg habsolute, if_neg habsolute]

theorem device_congr (hplace : path ∈ paths name) : other.device path = machine.device path :=
  h path (List.mem_append_right _ hplace)

theorem characterDevice_congr (hplace : path ∈ paths name) :
    characterDevice other path = characterDevice machine path := by
  rw [characterDevice, characterDevice, device_congr h hplace]

theorem number_congr : number other name = number machine name := by
  have hplaces : (paths name).findSome? (characterDevice other) =
      (paths name).findSome? (characterDevice machine) := by
    rw [← List.head?_filterMap, ← List.head?_filterMap,
      List.filterMap_congr fun _ => characterDevice_congr h]
  rw [number, number, absoluteDevice_congr h, hplaces]

theorem idleSeconds_congr (now : Binary64) :
    idleSeconds other name now = idleSeconds machine name now := by
  rw [idleSeconds, idleSeconds, device_congr h List.mem_cons_self]

end Congr

theorem looksAtPlainPaths (h : ∀ c ∈ name, IsNameChar c) : LooksAtPlainPaths name where
  plain := fun _ hpath => isPlainPath_of_chars (chars_of_mem_lookups h hpath)
  number := fun _ _ => number_congr
  idle := fun _ _ => idleSeconds_congr

end Terminal

/-! ## Sessions of the record file -/

namespace RecordFile

variable {record : Bytes}

theorem length_slice {start size : Nat} (h : start + size ≤ record.length) :
    (slice start size record).length = size := by
  rw [slice, List.length_take, List.length_drop]
  omega

theorem nul_not_mem_text (field : Bytes) : '\x00' ∉ text field := by
  refine Utf8.nul_not_mem_decode ?_
  intro hzero
  have hne := List.all_eq_true.mp List.all_takeWhile 0 hzero
  exact absurd hne (by decide)

theorem length_text_le (field : Bytes) : (text field).length ≤ field.length :=
  (Utf8.length_decode_le _).trans (List.takeWhile_prefix _).length_le

theorem text_ne_nil {field : Bytes} (h : field.headD 0 ≠ 0) : text field ≠ [] := by
  refine Utf8.decode_ne_nil ?_
  cases field with
  | nil => exact absurd rfl h
  | cons b rest =>
    rw [List.takeWhile_cons_of_pos (by simpa using h)]
    exact List.cons_ne_nil _ _

theorem username_ne_nil (h : isSession record = true) : (session record).username ≠ [] := by
  rw [isSession, Bool.and_eq_true, bne_iff_ne] at h
  exact text_ne_nil h.2

theorem isRecorded_session (h : record.length = recordSize) : (session record).IsRecorded where
  width := by
    have huser : (user record).length = userFieldSize := length_slice (by rw [h]; decide)
    rw [← huser]
    exact length_text_le (user record)
  nul := nul_not_mem_text (user record)
  host := length_slice (by rw [h]; decide)
  address := length_slice (by rw [h]; decide)
  source := rfl

end RecordFile

/-! ## Sessions of the registry -/

namespace Registry

theorem leader_ne_zero (entries : List (Text × Text)) : leader entries ≠ 0 := by
  unfold leader
  split
  · decide
  · split
    · decide
    · assumption

theorem isRegistered_of_isSessionOf {output identifier : Text} {found : LoginSession}
    (hlisted : identifier ∈ identifiers output) (h : IsSessionOf identifier found) :
    found.IsRegistered := by
  obtain ⟨username, startTime, entries, -, rfl⟩ := h
  obtain ⟨line, -, hword⟩ := List.mem_filterMap.mp hlisted
  have hfirst := Text.isFirstWord_of_head?_words hword
  exact ⟨⟨identifier, rfl, hfirst.nonempty, hfirst.chars⟩, rfl, leader_ne_zero entries⟩

end Registry

namespace SessionSource

theorem username_ne_nil_of_mem_listing {machine : Machine} {source : SessionSource}
    {session : LoginSession} (h : session ∈ (source.listing machine).sessions) :
    session.username ≠ [] := by
  cases source with
  | recordFile path =>
    obtain ⟨_, -, record, -, hlogin, rfl⟩ := RecordFile.exists_of_mem_listing h
    exact RecordFile.username_ne_nil hlogin
  | registry program =>
    obtain ⟨_, -, identifier, -, username, startTime, entries, hne, rfl⟩ :=
      Registry.exists_of_mem_listing h
    exact hne

theorem marks_of_mem_listing {machine : Machine} {source : SessionSource}
    {session : LoginSession} (h : session ∈ (source.listing machine).sessions) :
    source.Marks session := by
  cases source with
  | recordFile path =>
    obtain ⟨data, -, record, hrecord, -, rfl⟩ := RecordFile.exists_of_mem_listing h
    exact RecordFile.isRecorded_session (RecordFile.length_of_mem_records data record hrecord)
  | registry program =>
    obtain ⟨output, -, identifier, hlisted, hshown⟩ := Registry.exists_of_mem_listing h
    exact Registry.isRegistered_of_isSessionOf hlisted hshown

theorem wellFormed_of_mem_listing (machine : Machine) (source : SessionSource)
    (session : LoginSession) (h : session ∈ (source.listing machine).sessions) :
    session.IsWellFormed ∧ source.Marks session := by
  obtain ⟨name, hname⟩ := cleaned_of_mem_listing machine source session h
  have hchars : ∀ c ∈ session.tty, Terminal.IsNameChar c := by
    rw [hname]
    exact (Terminal.clean_isNameOf name).chars
  exact ⟨⟨username_ne_nil_of_mem_listing h, hchars, Terminal.looksAtPlainPaths hchars⟩,
    marks_of_mem_listing h⟩

/-- A file with a login on an X display and what is left of a record behind it. -/
def displayFile : Bytes := [RecordFile.displayRecord].flatMap LoginRecord.encode ++ [1, 2, 3]

def displayMachine : Machine := Machine.bare.withFiles [(['u'], displayFile)]

theorem wellFormed_of_display_and_word :
    (∃ found ∈ ((recordFile ['u']).listing displayMachine).sessions,
      found.IsWellFormed ∧ found.IsRecorded) ∧
    ∃ found ∈ ((registry ['l']).listing (Registry.twoSessions ['5'] ['7'])).sessions,
      found.IsWellFormed ∧ found.IsRegistered := by
  constructor
  · have hfile : displayMachine.contents ['u'] = .ok displayFile := rfl
    have hlogins : [RecordFile.displayRecord].filter LoginRecord.isLogin =
        [RecordFile.displayRecord] := rfl
    have hsessions : ((recordFile ['u']).listing displayMachine).sessions ≠ [] := by
      rw [listing, RecordFile.sessions_listing hfile, displayFile,
        RecordFile.sessions_encode _ _ (by decide), hlogins]
      exact List.cons_ne_nil _ _
    obtain ⟨found, hfound⟩ := List.exists_mem_of_ne_nil _ hsessions
    exact ⟨found, hfound, wellFormed_of_mem_listing _ (recordFile ['u']) found hfound⟩
  · have hsessions :
        ((registry ['l']).listing (Registry.twoSessions ['5'] ['7'])).sessions ≠ [] := by
      decide +kernel
    obtain ⟨found, hfound⟩ := List.exists_mem_of_ne_nil _ hsessions
    exact ⟨found, hfound, wellFormed_of_mem_listing _ (registry ['l']) found hfound⟩

end SessionSource

end LoginReport
