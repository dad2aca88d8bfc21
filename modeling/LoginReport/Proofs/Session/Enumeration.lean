import LoginReport.Proofs.Machine
import LoginReport.Proofs.Session.LookUp
import LoginReport.Proofs.Session.Properties

set_option autoImplicit false

/-!
# Enumerating the registry

Every identifier of the list is looked up once, in order, and tells one thing, until one breaks.
What comes after it is not looked up.
-/

namespace LoginReport

namespace Registry

variable {machine : Machine} {program : Text} {boot : Binary64}

/-- Every command with what it tells behind it. -/
def answered (program : Text) (identifiers : List Text) (told : List SessionStep) :
    List SessionStep :=
  (List.zipWith (fun identifier step => [.ran (showCommand program identifier), step])
    identifiers told).flatten

theorem lookUpAll_append (before after : List Text) :
    lookUpAll machine program boot (before ++ after) =
      (lookUpAll machine program boot before).append (lookUpAll machine program boot after) := by
  induction before with
  | nil => rfl
  | cons identifier rest ih =>
    rw [List.cons_append, lookUpAll, ih, lookUpAll, SessionListing.append_assoc]

/-- By the identifiers: none of them ends the enumeration. -/
theorem lookUpAll_of_sound (boot : Binary64) {identifiers : List Text}
    (h : ∀ identifier ∈ identifiers, ¬IsBroken machine program identifier) :
    ∃ told, List.Forall₂ (Tells machine program boot) identifiers told ∧
      lookUpAll machine program boot identifiers = ⟨answered program identifiers told, none⟩ := by
  induction identifiers with
  | nil => exact ⟨[], .nil, rfl⟩
  | cons identifier rest ih =>
    rw [List.forall_mem_cons] at h
    obtain ⟨step, hstep, hlookUp⟩ := exists_tells boot h.1
    obtain ⟨told, htold, hrest⟩ := ih h.2
    refine ⟨step :: told, .cons hstep htold, ?_⟩
    rw [lookUpAll, hlookUp, hrest]
    rfl

theorem lookUpAll_of_isBroken (boot : Binary64) {before : List Text} {broken : Text}
    (after : List Text)
    (hbefore : ∀ identifier ∈ before, ¬IsBroken machine program identifier)
    (hbroken : IsBroken machine program broken) :
    ∃ told fault, List.Forall₂ (Tells machine program boot) before told ∧
      lookUpAll machine program boot (before ++ broken :: after) =
        ⟨answered program before told ++ [.ran (showCommand program broken)], some fault⟩ ∧
      fault.isSource = false := by
  obtain ⟨told, htold, hlookUps⟩ := lookUpAll_of_sound boot hbefore
  obtain ⟨fault, hfault, hsource⟩ := lookUp_of_isBroken boot hbroken
  refine ⟨told, fault, htold, ?_, hsource⟩
  rw [lookUpAll_append, hlookUps, lookUpAll, hfault]
  rfl

/-! ## Commands, sessions and notices -/

theorem Tells.command?_eq_none {identifier : Text} {step : SessionStep}
    (h : Tells machine program boot identifier step) : step.command? = none := by
  cases h <;> rfl

variable {ids : List Text} {told : List SessionStep}

theorem answered_cons (identifier : Text) (step : SessionStep) :
    answered program (identifier :: ids) (step :: told) =
      .ran (showCommand program identifier) :: step :: answered program ids told := rfl

theorem commands_answered (h : List.Forall₂ (Tells machine program boot) ids told) :
    (answered program ids told).filterMap SessionStep.command? =
      ids.map (showCommand program) := by
  induction h with
  | nil => rfl
  | cons hstep _ ih =>
    change showCommand program _ :: List.filterMap _ (_ :: answered program _ _) = _
    rw [List.filterMap_cons_none hstep.command?_eq_none, ih, List.map_cons]

/-- Seen without the commands, only what they tell is left. -/
theorem filterMap_answered {α : Type} {view : SessionStep → Option α}
    (hview : ∀ arguments, view (.ran arguments) = none)
    (h : List.Forall₂ (Tells machine program boot) ids told) :
    (answered program ids told).filterMap view = told.filterMap view := by
  induction h with
  | nil => rfl
  | cons _ _ ih =>
    rw [answered_cons, List.filterMap_cons_none (hview _), List.filterMap_cons,
      List.filterMap_cons, ih]

/-! ## The listing -/

variable {output : Text}

theorem listing_eq (hboot : machine.bootTime = .ok boot)
    (hlist : machine.output (listCommand program) = .ok output) :
    listing machine program =
      ⟨.ran (listCommand program) :: (lookUpAll machine program boot (identifiers output)).steps,
        (lookUpAll machine program boot (identifiers output)).fault⟩ := by
  rw [listing, hboot]
  dsimp only
  rw [hlist]
  rfl

theorem fault_of_bootTime {cause : BootFault} (h : machine.bootTime = .error cause) :
    (listing machine program).fault = some (.source (.bootTime cause)) := by
  rw [listing, h]

theorem fault_of_list {cause : CommandFault} (hboot : machine.bootTime = .ok boot)
    (h : machine.output (listCommand program) = .error (.command cause)) :
    (listing machine program).fault = some (.source (.sessionList cause)) := by
  rw [listing, hboot]
  dsimp only
  rw [h]
  rfl

theorem fault_of_exchange {cause : ExchangeFault} (hboot : machine.bootTime = .ok boot)
    (h : machine.output (listCommand program) = .error (.exchange cause)) :
    (listing machine program).fault = some (.exchange cause) := by
  rw [listing, hboot]
  dsimp only
  rw [h]
  rfl

theorem listing_of_sound (hboot : machine.bootTime = .ok boot)
    (hlist : machine.output (listCommand program) = .ok output)
    (hsound : ∀ identifier ∈ identifiers output, ¬IsBroken machine program identifier) :
    ∃ told, List.Forall₂ (Tells machine program boot) (identifiers output) told ∧
      listing machine program =
        ⟨.ran (listCommand program) :: answered program (identifiers output) told, none⟩ := by
  obtain ⟨told, htold, hlookUps⟩ := lookUpAll_of_sound boot hsound
  refine ⟨told, htold, ?_⟩
  rw [listing_eq hboot hlist, hlookUps]

theorem listing_of_isBroken {before after : List Text} {broken : Text}
    (hboot : machine.bootTime = .ok boot)
    (hlist : machine.output (listCommand program) = .ok output)
    (hsplit : identifiers output = before ++ broken :: after)
    (hbefore : ∀ identifier ∈ before, ¬IsBroken machine program identifier)
    (hbroken : IsBroken machine program broken) :
    ∃ told fault, List.Forall₂ (Tells machine program boot) before told ∧
      listing machine program =
        ⟨.ran (listCommand program) ::
          (answered program before told ++ [.ran (showCommand program broken)]), some fault⟩ ∧
      fault.isSource = false := by
  obtain ⟨told, fault, htold, hlookUps, hsource⟩ :=
    lookUpAll_of_isBroken boot after hbefore hbroken
  refine ⟨told, fault, htold, ?_, hsource⟩
  rw [listing_eq hboot hlist, hsplit, hlookUps]

theorem exists_first_isBroken {identifier : Text} (hmem : identifier ∈ ids)
    (h : IsBroken machine program identifier) :
    ∃ before broken after, ids = before ++ broken :: after ∧
      (∀ other ∈ before, ¬IsBroken machine program other) ∧ IsBroken machine program broken := by
  have hfind : (ids.find? fun other => decide (IsBroken machine program other)).isSome := by
    rw [List.find?_isSome]
    exact ⟨identifier, hmem, decide_eq_true h⟩
  obtain ⟨broken, hbroken⟩ := Option.isSome_iff_exists.mp hfind
  obtain ⟨hthis, before, after, hsplit, hbefore⟩ := List.find?_eq_some_iff_append.mp hbroken
  refine ⟨before, broken, after, hsplit, ?_, of_decide_eq_true hthis⟩
  intro other hother
  simpa using hbefore other hother

/-- Faults of other kinds come from broken sessions only. -/
theorem not_isBroken_of_isSource (hboot : machine.bootTime = .ok boot)
    (hlist : machine.output (listCommand program) = .ok output)
    (h : ∀ fault, (listing machine program).fault = some fault → fault.isSource = true) :
    ∀ identifier ∈ identifiers output, ¬IsBroken machine program identifier := by
  intro identifier hidentifier hbroken
  obtain ⟨before, first, after, hsplit, hbefore, hfirst⟩ :=
    exists_first_isBroken hidentifier hbroken
  obtain ⟨told, fault, -, hlisting, hsource⟩ :=
    listing_of_isBroken hboot hlist hsplit hbefore hfirst
  have hfault := h fault (by rw [hlisting])
  rw [hsource] at hfault
  cases hfault

theorem sessions_of_isBroken {before after : List Text} {broken : Text}
    (hboot : machine.bootTime = .ok boot)
    (hlist : machine.output (listCommand program) = .ok output)
    (hsplit : identifiers output = before ++ broken :: after)
    (hbefore : ∀ identifier ∈ before, ¬IsBroken machine program identifier)
    (hbroken : IsBroken machine program broken) :
    ∃ told, List.Forall₂ (Tells machine program boot) before told ∧
      (listing machine program).sessions = told.filterMap SessionStep.session? ∧
      (listing machine program).commands =
        listCommand program :: (before ++ [broken]).map (showCommand program) := by
  obtain ⟨told, fault, htold, hlisting, -⟩ :=
    listing_of_isBroken hboot hlist hsplit hbefore hbroken
  refine ⟨told, htold, ?_, ?_⟩
  · rw [hlisting]
    change List.filterMap _ (_ ++ [_]) = _
    rw [List.filterMap_append, filterMap_answered (fun _ => rfl) htold]
    exact List.append_nil _
  · rw [hlisting]
    change _ :: List.filterMap _ (_ ++ [_]) = _
    rw [List.filterMap_append, commands_answered htold, List.map_append]
    rfl

/-- A listing ends with a fault of its source alone, without a boot time or a list, unless the list
was not passed on or there is a broken session, which hides the sessions behind it. -/
theorem listing_ends_early_iff (machine : Machine) (program : Text) :
    ((∀ fault, (listing machine program).fault = some fault →
        (∃ cause, machine.bootTime = .error cause ∧ fault = .source (.bootTime cause)) ∨
        ∃ cause, machine.output (listCommand program) = .error (.command cause) ∧
          fault = .source (.sessionList cause)) ↔
      ∀ boot, machine.bootTime = .ok boot →
        (∀ cause, machine.output (listCommand program) ≠ .error (.exchange cause)) ∧
        ∀ output, machine.output (listCommand program) = .ok output →
          ∀ identifier ∈ identifiers output, ¬IsBroken machine program identifier) ∧
    ∀ boot output before broken after, machine.bootTime = .ok boot →
      machine.output (listCommand program) = .ok output →
      identifiers output = before ++ broken :: after →
      (∀ identifier ∈ before, ¬IsBroken machine program identifier) →
      IsBroken machine program broken →
      ∃ told, List.Forall₂ (Tells machine program boot) before told ∧
        (listing machine program).sessions = told.filterMap SessionStep.session? ∧
        (listing machine program).commands =
          listCommand program :: (before ++ [broken]).map (showCommand program) := by
  refine ⟨⟨?_, ?_⟩, ?_⟩
  · intro hends boot hboot
    have hsource : ∀ fault, (listing machine program).fault = some fault →
        fault.isSource = true := by
      intro fault hfault
      rcases hends fault hfault with ⟨cause, -, rfl⟩ | ⟨cause, -, rfl⟩
      · rfl
      · rfl
    refine ⟨?_, fun output hlist => not_isBroken_of_isSource hboot hlist hsource⟩
    intro cause hexchange
    cases hsource _ (fault_of_exchange hboot hexchange)
  · intro hsound fault hfault
    cases hboot : machine.bootTime with
    | error cause =>
      rw [fault_of_bootTime hboot] at hfault
      exact Or.inl ⟨cause, rfl, (Option.some.inj hfault).symm⟩
    | ok boot =>
      obtain ⟨hexchange, hsound⟩ := hsound boot hboot
      cases hlist : machine.output (listCommand program) with
      | error cause =>
        cases cause with
        | command cause =>
          rw [fault_of_list hboot hlist] at hfault
          exact Or.inr ⟨cause, rfl, (Option.some.inj hfault).symm⟩
        | exchange cause => exact absurd hlist (hexchange cause)
      | ok output =>
        obtain ⟨told, -, hlisting⟩ := listing_of_sound hboot hlist (hsound output hlist)
        rw [hlisting] at hfault
        cases hfault
  · intro boot output before broken after
    exact sessions_of_isBroken

/-- One look-up comes to another end. -/
def withLookUp (machine : Machine) (program identifier : Text) (outcome : CommandOutcome) :
    Machine :=
  machine.withOutcome (showCommand program identifier) outcome

/-- The properties of a session of `u` with this time. -/
def shownAt (count : Text) : Text :=
  printed [("Name".toList, ['u']), ("TimestampMonotonic".toList, count)]

theorem properties_shownAt {count : Text} (h : ∀ c ∈ count, Text.isLineBreak c = false) :
    properties (shownAt count) =
      [("Name".toList, ['u']), ("TimestampMonotonic".toList, count)] := by
  apply properties_printed
  · intro p hp
    rw [List.mem_cons, List.mem_singleton] at hp
    apply plain_propertyNames
    rcases hp with rfl | rfl
    · exact List.mem_of_getElem? (i := 0) rfl
    · exact List.mem_of_getElem? (i := 4) rfl
  · intro p hp
    rw [List.mem_cons, List.mem_singleton] at hp
    rcases hp with rfl | rfl
    · exact List.forall_mem_singleton.mpr (by decide)
    · exact h

/-- Two sessions with these times. -/
def twoSessions (first second : Text) : Machine :=
  withLookUp
    (withLookUp (Machine.bare.withOutcome (listCommand ['l']) (.printed "1 u\n2 u\n".toList))
      ['l'] ['1'] (.printed (shownAt first)))
    ['l'] ['2'] (.printed (shownAt second))

theorem listing_ends_early_at_second :
    (twoSessions ['5'] ['x']).bootTime = .ok .zero ∧
      (twoSessions ['5'] ['x']).output (listCommand ['l']) = .ok "1 u\n2 u\n".toList ∧
      identifiers "1 u\n2 u\n".toList = [['1']] ++ ['2'] :: [] ∧
      (∀ identifier ∈ [['1']], ¬IsBroken (twoSessions ['5'] ['x']) ['l'] identifier) ∧
      IsBroken (twoSessions ['5'] ['x']) ['l'] ['2'] ∧
      ∃ told, List.Forall₂ (Tells (twoSessions ['5'] ['x']) ['l'] .zero) [['1']] told ∧
        (listing (twoSessions ['5'] ['x']) ['l']).sessions =
          told.filterMap SessionStep.session? ∧
        (listing (twoSessions ['5'] ['x']) ['l']).commands =
          listCommand ['l'] :: ([['1']] ++ [['2']]).map (showCommand ['l']) := by
  have hlist : (twoSessions ['5'] ['x']).output (listCommand ['l']) =
      .ok "1 u\n2 u\n".toList := by decide +kernel
  have hsplit : identifiers "1 u\n2 u\n".toList = [['1']] ++ ['2'] :: [] := by decide +kernel
  have hsound : ∀ identifier ∈ [['1']], ¬IsBroken (twoSessions ['5'] ['x']) ['l'] identifier := by
    decide +kernel
  have hbroken : IsBroken (twoSessions ['5'] ['x']) ['l'] ['2'] := by decide +kernel
  refine ⟨rfl, hlist, hsplit, hsound, hbroken, ?_⟩
  exact (listing_ends_early_iff (twoSessions ['5'] ['x']) ['l']).2 _ _ _ _ _ rfl hlist hsplit
    hsound hbroken

/-- The first session has letters for its time: the second, of which nothing is wrong, is not
listed, and the fault is none of a source. -/
theorem second_hidden_by_letters :
    (twoSessions "abc".toList ['7']).bootTime = .ok .zero ∧
      (twoSessions "abc".toList ['7']).output (listCommand ['l']) = .ok "1 u\n2 u\n".toList ∧
      identifiers "1 u\n2 u\n".toList = [['1'], ['2']] ∧
      (lookUp (twoSessions "abc".toList ['7']) ['l'] .zero ['2']).sessions.length = 1 ∧
      (listing (twoSessions "abc".toList ['7']) ['l']).sessions = [] ∧
      (listing (twoSessions "abc".toList ['7']) ['l']).fault =
        some (.numeral (.malformed "'abc'".toList)) := by
  refine ⟨?_, ?_, ?_, ?_, ?_, ?_⟩
  all_goals decide +kernel

end Registry

end LoginReport
