import LoginReport.Proofs.Number.Overflow
import LoginReport.Proofs.Results
import LoginReport.Proofs.Session.TerminalNames
import LoginReport.Session.Registry

set_option autoImplicit false

/-!
# What a look-up tells

A look-up tells one thing: a session, or that there is none. It breaks only where nothing passes to
or from its command, or the session has a user's name and a time that cannot be read.
-/

namespace LoginReport

namespace SessionListing

theorem append_assoc (first second third : SessionListing) :
    (first.append second).append third = first.append (second.append third) := by
  cases hfirst : first.fault with
  | some fault => simp [append, hfirst]
  | none => cases hsecond : second.fault <;> simp [append, hfirst, hsecond]

end SessionListing

namespace Registry

/-- A missing or empty count is a count of zero. -/
inductive Counts : Option Text → Int → Prop where
  | absent : Counts none 0
  | empty : Counts (some []) 0
  | numeral {numeral : Text} {n : Int} (h : Numeral.ofText numeral = .ok n) :
      Counts (some numeral) n

/-- The count is one of microseconds that a finite number of seconds can hold. -/
def IsTimestamp (count : Option Text) : Prop :=
  ∃ n, Counts count n ∧ n.natAbs < Binary64.overflowThreshold * 1000000

def HasName (shown : Text) : Prop :=
  ∃ name, name ≠ [] ∧ value? (properties shown) "Name" = some name

instance decidableHasName (shown : Text) : Decidable (HasName shown) :=
  match h : value? (properties shown) "Name" with
  | none => isFalse fun ⟨_, _, hname⟩ => by simp [h] at hname
  | some name => decidable_of_iff (name ≠ []) (by simp [HasName, h])

instance decidableIsTimestamp : (count : Option Text) → Decidable (IsTimestamp count)
  | none => isTrue ⟨0, .absent, by decide +kernel⟩
  | some [] => isTrue ⟨0, .empty, by decide +kernel⟩
  | some (c :: rest) =>
    match h : Numeral.ofText (c :: rest) with
    | .error fault => isFalse fun ⟨_, hcounts, _⟩ => by
      cases hcounts with
      | numeral hn => simp [h] at hn
    | .ok n => decidable_of_iff (n.natAbs < Binary64.overflowThreshold * 1000000)
      ⟨fun hn => ⟨n, .numeral h, hn⟩, fun ⟨_, hcounts, hm⟩ => by
        cases hcounts with
        | numeral hn =>
          obtain rfl := Except.ok.inj (h.symm.trans hn)
          exact hm⟩

/-- What a session takes from its identifier, from what was shown for it and from the time of the
last boot. -/
structure Describes (boot : Binary64) (identifier shown : Text) (session : LoginSession) :
    Prop where
  identifier : session.identifier = some identifier
  username : value? (properties shown) "Name" = some session.username
  tty : Terminal.IsNameOf ((value? (properties shown) "TTY").getD []) session.tty
  uid : session.uid = Numeral.optional (value? (properties shown) "User")
  leader : session.leader =
    ((Numeral.optional (value? (properties shown) "Leader")).filter (· ≠ 0)).getD (-1)
  startTime : ∃ n, Counts (value? (properties shown) "TimestampMonotonic") n ∧
    session.startTime = boot.add (Binary64.ofRatio n 1000000)
  remoteHost : session.remoteHost = some ((value? (properties shown) "RemoteHost").getD [])
  host : session.host = []
  address : session.address = List.replicate addressFieldSize 0
  display : session.display = false

variable (machine : Machine) (program : Text) (boot : Binary64)

/-- What a look-up tells beside the command that it runs. -/
inductive Tells (identifier : Text) : SessionStep → Prop where
  | vanished {fault : CommandFault}
      (hfault : machine.output (showCommand program identifier) = .error (.command fault)) :
      Tells identifier (.noted (.sessionVanished identifier))
  | unnamed {shown : Text} (hshown : machine.output (showCommand program identifier) = .ok shown)
      (hname : ¬HasName shown) : Tells identifier (.noted (.sessionUnnamed identifier))
  | found {shown : Text} {session : LoginSession}
      (hshown : machine.output (showCommand program identifier) = .ok shown)
      (hname : HasName shown) (hsession : Describes boot identifier shown session) :
      Tells identifier (.found session)

/-- What was shown has a user's name, but no time that can be read. -/
def IsUntimed (shown : Text) : Prop :=
  HasName shown ∧ ¬IsTimestamp (value? (properties shown) "TimestampMonotonic")

instance decidableIsUntimed (shown : Text) : Decidable (IsUntimed shown) :=
  inferInstanceAs (Decidable
    (HasName shown ∧ ¬IsTimestamp (value? (properties shown) "TimestampMonotonic")))

/-- Nothing passed to or from the command of the session, or what it showed is untimed. -/
inductive IsBroken (identifier : Text) : Prop where
  | exchange {fault : ExchangeFault}
      (hfault : machine.output (showCommand program identifier) = .error (.exchange fault))
  | untimed {shown : Text} (hshown : machine.output (showCommand program identifier) = .ok shown)
      (htime : IsUntimed shown)

instance decidableIsBroken (identifier : Text) : Decidable (IsBroken machine program identifier) :=
  match h : machine.output (showCommand program identifier) with
  | .error (.exchange fault) => isTrue (.exchange h)
  | .error (.command fault) => isFalse fun hbroken => by
    rcases hbroken with hfault | ⟨hshown, -⟩
    · cases h.symm.trans hfault
    · cases h.symm.trans hshown
  | .ok shown => decidable_of_iff (IsUntimed shown)
      ⟨fun htime => .untimed h htime, fun hbroken => by
        rcases hbroken with hfault | ⟨hshown, htime⟩
        · cases h.symm.trans hfault
        · obtain rfl := Except.ok.inj (h.symm.trans hshown)
          exact htime⟩

variable {machine program boot} {identifier shown : Text}

theorem microseconds_eq_ok_iff {entries : List (Text × Text)} {n : Int} :
    microseconds entries = .ok n ↔ Counts (value? entries "TimestampMonotonic") n := by
  unfold microseconds
  constructor
  · intro h
    split at h
    · rename_i habsent
      obtain rfl := Except.ok.inj h
      rw [habsent]
      exact .absent
    · rename_i hempty
      obtain rfl := Except.ok.inj h
      rw [hempty]
      exact .empty
    · rename_i numeral hnumeral
      rw [hnumeral]
      exact .numeral h
  · intro h
    generalize value? entries "TimestampMonotonic" = count at h
    cases h with
    | absent => rfl
    | empty => rfl
    | @numeral numeral _ h =>
      cases numeral with
      | nil => cases h
      | cons c rest => exact h

theorem natAbs_million : (1000000 : Int).natAbs = 1000000 := rfl

theorem startTime_of_counts {entries : List (Text × Text)} {n : Int}
    (h : Counts (value? entries "TimestampMonotonic") n)
    (hn : n.natAbs < Binary64.overflowThreshold * 1000000) :
    startTime boot entries = .ok (boot.add (Binary64.ofRatio n 1000000)) := by
  rw [← natAbs_million] at hn
  have hratio := Binary64.ratio_of_lt (by decide) hn
  rw [startTime, bind_mapError_ok (microseconds_eq_ok_iff.mpr h), bind_mapError_ok hratio]
  rfl

theorem startTime_of_not_isTimestamp (boot : Binary64) {entries : List (Text × Text)}
    (h : ¬IsTimestamp (value? entries "TimestampMonotonic")) :
    ∃ fault, startTime boot entries = .error fault ∧ fault.isSource = false := by
  cases hcount : microseconds entries with
  | error fault =>
    refine ⟨.numeral fault, ?_, rfl⟩
    rw [startTime, bind_mapError_error hcount]
  | ok n =>
    have hlarge : Binary64.overflowThreshold * 1000000 ≤ n.natAbs := by
      apply Nat.le_of_not_lt
      intro hn
      exact h ⟨n, microseconds_eq_ok_iff.mp hcount, hn⟩
    rw [← natAbs_million] at hlarge
    have hratio := Binary64.ratio_of_le (by decide) hlarge
    refine ⟨.number .quotientTooLarge, ?_, rfl⟩
    rw [startTime, bind_mapError_ok hcount, bind_mapError_error hratio]

theorem describes_session {username : Text} {n : Int}
    (hname : value? (properties shown) "Name" = some username)
    (hn : Counts (value? (properties shown) "TimestampMonotonic") n) :
    Describes boot identifier shown (session identifier username
      (boot.add (Binary64.ofRatio n 1000000)) (properties shown)) := by
  constructor
  case leader =>
    rw [session, leader]
    cases Numeral.optional (value? (properties shown) "Leader") with
    | none => rfl
    | some pid => by_cases hpid : pid = 0 <;> simp [hpid, Option.filter]
  case startTime => exact ⟨n, hn, rfl⟩
  case tty => exact Terminal.clean_isNameOf _
  case username => exact hname
  all_goals rfl

theorem read_of_unnamed (h : ¬HasName shown) :
    read boot identifier shown = ⟨[.noted (.sessionUnnamed identifier)], none⟩ := by
  cases hname : value? (properties shown) "Name" with
  | none => simp [read, hname]
  | some name =>
    cases name with
    | nil => simp [read, hname]
    | cons c rest => exact absurd ⟨_, List.cons_ne_nil c rest, hname⟩ h

theorem read_of_name {username : Text} (hempty : username ≠ [])
    (hname : value? (properties shown) "Name" = some username) :
    read boot identifier shown =
      match startTime boot (properties shown) with
      | .error fault => ⟨[], some fault⟩
      | .ok start => ⟨[.found (session identifier username start (properties shown))], none⟩ := by
  cases username with
  | nil => exact absurd rfl hempty
  | cons c rest =>
    rw [read, hname]
    rfl

theorem lookUp_of_error {fault : CommandFault}
    (h : machine.output (showCommand program identifier) = .error (.command fault)) :
    lookUp machine program boot identifier =
      ⟨[.ran (showCommand program identifier), .noted (.sessionVanished identifier)], none⟩ := by
  rw [lookUp, h]
  rfl

theorem lookUp_of_ok (h : machine.output (showCommand program identifier) = .ok shown) :
    lookUp machine program boot identifier =
      ⟨.ran (showCommand program identifier) :: (read boot identifier shown).steps,
        (read boot identifier shown).fault⟩ := by
  rw [lookUp, h]
  rfl

theorem exists_tells (boot : Binary64) (h : ¬IsBroken machine program identifier) :
    ∃ step, Tells machine program boot identifier step ∧
      lookUp machine program boot identifier =
        ⟨[.ran (showCommand program identifier), step], none⟩ := by
  cases hshown : machine.output (showCommand program identifier) with
  | error fault =>
    cases fault with
    | command fault => exact ⟨_, .vanished hshown, lookUp_of_error hshown⟩
    | exchange fault => exact absurd (.exchange hshown) h
  | ok shown =>
    by_cases hname : HasName shown
    · have htime : IsTimestamp (value? (properties shown) "TimestampMonotonic") := by
        by_contra htime
        exact h (.untimed hshown ⟨hname, htime⟩)
      obtain ⟨n, hcounts, hn⟩ := htime
      obtain ⟨username, hempty, husername⟩ := id hname
      refine ⟨_, .found hshown hname (describes_session husername hcounts), ?_⟩
      rw [lookUp_of_ok hshown, read_of_name hempty husername, startTime_of_counts hcounts hn]
    · refine ⟨_, .unnamed hshown hname, ?_⟩
      rw [lookUp_of_ok hshown, read_of_unnamed hname]

theorem lookUp_of_isBroken (boot : Binary64) (h : IsBroken machine program identifier) :
    ∃ fault, lookUp machine program boot identifier =
        ⟨[.ran (showCommand program identifier)], some fault⟩ ∧ fault.isSource = false := by
  rcases h with @⟨fault, hfault⟩ | ⟨hshown, ⟨username, hempty, husername⟩, htime⟩
  · refine ⟨.exchange fault, ?_, rfl⟩
    rw [lookUp, hfault]
    rfl
  · obtain ⟨fault, hfault, hsource⟩ := startTime_of_not_isTimestamp boot htime
    refine ⟨fault, ?_, hsource⟩
    rw [lookUp_of_ok hshown, read_of_name hempty husername, hfault]

end Registry

end LoginReport
