import Mathlib.Algebra.Group.Int.Defs
import LoginReport.Proofs.Session.Enumeration
import LoginReport.Proofs.Text.Numeral

set_option autoImplicit false

/-!
# Sessions do not depend on one another

Where no session is broken, and only there, the listing has one session or one notice for every line
of the list that is not blank. A look-up that fails takes its own session away and no other.
-/

namespace LoginReport

/-- The command did not start, or did not end well. -/
inductive CommandOutcome.Fails : CommandOutcome → Prop where
  | exited (status : Int) : Fails (.exited status)
  | notStarted (fault : SystemFault) : Fails (.notStarted fault)

namespace Registry

variable {machine : Machine} {program output : Text} {boot : Binary64} {ids : List Text}

theorem showCommand_injective : Function.Injective (showCommand program) := by
  intro first second h
  simpa [showCommand] using h

theorem listCommand_ne_showCommand (identifier : Text) :
    listCommand program ≠ showCommand program identifier := by
  simp [listCommand, showCommand]

theorem sessions_lookUpAll (h : ∀ identifier ∈ ids, ¬IsBroken machine program identifier) :
    (lookUpAll machine program boot ids).sessions =
      ids.flatMap fun identifier => (lookUp machine program boot identifier).sessions := by
  induction ids with
  | nil => rfl
  | cons identifier rest ih =>
    rw [List.forall_mem_cons] at h
    obtain ⟨step, -, hlookUp⟩ := exists_tells boot h.1
    have hfault : (lookUp machine program boot identifier).fault = none := by rw [hlookUp]
    rw [lookUpAll, SessionListing.sessions_append _ _ hfault, ih h.2, List.flatMap_cons]

theorem identifier_of_mem_lookUp {identifier : Text} {session : LoginSession}
    (hsound : ¬IsBroken machine program identifier)
    (h : session ∈ (lookUp machine program boot identifier).sessions) :
    session.identifier = some identifier := by
  obtain ⟨step, hstep, hlookUp⟩ := exists_tells boot hsound
  rw [hlookUp] at h
  cases hstep with
  | vanished => cases h
  | unnamed => cases h
  | found _ _ hsession =>
    obtain rfl := List.mem_singleton.mp h
    exact hsession.identifier

variable {identifier failing : Text} {outcome : CommandOutcome}

theorem output_withLookUp_of_ne {arguments : List Text}
    (h : arguments ≠ showCommand program failing) :
    (withLookUp machine program failing outcome).output arguments = machine.output arguments := by
  rw [Machine.output, Machine.output, withLookUp, Machine.run_withOutcome_of_ne _ _ h]

theorem output_withLookUp (machine : Machine) (program failing : Text)
    (houtcome : outcome.Fails) :
    ∃ fault, (withLookUp machine program failing outcome).output (showCommand program failing) =
      .error (.command fault) := by
  rw [Machine.output, withLookUp, Machine.run_withOutcome]
  cases houtcome with
  | exited status => exact ⟨_, rfl⟩
  | notStarted fault => exact ⟨_, rfl⟩

theorem not_isBroken_withLookUp (houtcome : outcome.Fails)
    (h : ¬IsBroken machine program identifier) :
    ¬IsBroken (withLookUp machine program failing outcome) program identifier := by
  intro hbroken
  by_cases hsame : identifier = failing
  · subst hsame
    obtain ⟨fault, hfault⟩ := output_withLookUp machine program identifier houtcome
    rcases hbroken with hexchange | ⟨hshown, -⟩
    · cases hfault.symm.trans hexchange
    · cases hfault.symm.trans hshown
  · have hother : showCommand program identifier ≠ showCommand program failing :=
      showCommand_injective.ne hsame
    rcases hbroken with hexchange | ⟨hshown, htime⟩
    · exact h (.exchange ((output_withLookUp_of_ne hother).symm.trans hexchange))
    · exact h (.untimed ((output_withLookUp_of_ne hother).symm.trans hshown) htime)

theorem sessions_lookUp_withLookUp (houtcome : outcome.Fails)
    (h : ¬IsBroken machine program identifier) :
    (lookUp (withLookUp machine program failing outcome) program boot identifier).sessions =
      (lookUp machine program boot identifier).sessions.filter
        fun session => session.identifier != some failing := by
  symm
  by_cases hsame : identifier = failing
  · obtain ⟨fault, hfault⟩ := output_withLookUp machine program failing houtcome
    rw [hsame] at h ⊢
    rw [lookUp_of_error hfault]
    apply List.filter_eq_nil_iff.mpr
    intro session hsession
    simp [identifier_of_mem_lookUp h hsession]
  · rw [lookUp, lookUp, output_withLookUp_of_ne (showCommand_injective.ne hsame), ← lookUp]
    apply List.filter_eq_self.mpr
    intro session hsession
    simpa [identifier_of_mem_lookUp h hsession] using hsame

theorem listing_withLookUp (hboot : machine.bootTime = .ok boot)
    (hlist : machine.output (listCommand program) = .ok output)
    (hsound : ∀ identifier ∈ identifiers output, ¬IsBroken machine program identifier)
    (houtcome : outcome.Fails) :
    (listing (withLookUp machine program failing outcome) program).fault = none ∧
      (listing (withLookUp machine program failing outcome) program).sessions =
        (listing machine program).sessions.filter
          fun session => session.identifier != some failing := by
  have hboot' : (withLookUp machine program failing outcome).bootTime = .ok boot := hboot
  have hlist' : (withLookUp machine program failing outcome).output (listCommand program) =
      .ok output := by
    rw [output_withLookUp_of_ne (listCommand_ne_showCommand failing), hlist]
  have hsound' : ∀ identifier ∈ identifiers output,
      ¬IsBroken (withLookUp machine program failing outcome) program identifier := by
    intro identifier hidentifier
    exact not_isBroken_withLookUp houtcome (hsound identifier hidentifier)
  constructor
  · obtain ⟨told, -, hlisting⟩ := listing_of_sound hboot' hlist' hsound'
    rw [hlisting]
  · rw [listing_eq hboot' hlist', listing_eq hboot hlist]
    change (lookUpAll _ program boot _).sessions =
      (lookUpAll machine program boot _).sessions.filter _
    rw [sessions_lookUpAll hsound', sessions_lookUpAll hsound, List.filter_flatMap]
    apply List.flatMap_congr
    intro identifier hidentifier
    exact sessions_lookUp_withLookUp houtcome (hsound identifier hidentifier)

theorem level_of_mem_notices {told : List SessionStep}
    (h : List.Forall₂ (Tells machine program boot) ids told) :
    ∀ notice ∈ told.filterMap SessionStep.notice?, notice.level = .debug := by
  induction h with
  | nil => simp
  | cons hstep _ ih =>
    cases hstep with
    | vanished => exact List.forall_mem_cons.mpr ⟨rfl, ih⟩
    | unnamed => exact List.forall_mem_cons.mpr ⟨rfl, ih⟩
    | found => exact ih

/-- The listing comes to its end exactly if no session is broken. Then the list is run first, and
one look-up for every line that is not blank, with the first word of the line. Each tells a session
of its own or gives a notice, and one that is made to fail takes its own session away. -/
theorem listing_of_readable (machine : Machine) (program output : Text) (boot : Binary64)
    (hboot : machine.bootTime = .ok boot)
    (hlist : machine.output (listCommand program) = .ok output) :
    List.Forall₂ Text.IsFirstWord ((Text.lines output).filter fun line => !line.all Text.isBlank)
        (identifiers output) ∧
      ((listing machine program).fault = none ↔
        ∀ identifier ∈ identifiers output, ¬IsBroken machine program identifier) ∧
      ((∀ identifier ∈ identifiers output, ¬IsBroken machine program identifier) →
        (∃ told, List.Forall₂ (Tells machine program boot) (identifiers output) told ∧
          (listing machine program).commands =
            listCommand program :: (identifiers output).map (showCommand program) ∧
          (listing machine program).sessions = told.filterMap SessionStep.session? ∧
          (listing machine program).notices = told.filterMap SessionStep.notice? ∧
          ∀ notice ∈ (listing machine program).notices, notice.level = .debug) ∧
        ∀ (identifier : Text) (outcome : CommandOutcome), outcome.Fails →
          (listing (withLookUp machine program identifier outcome) program).fault = none ∧
          (listing (withLookUp machine program identifier outcome) program).sessions =
            (listing machine program).sessions.filter
              fun session => session.identifier != some identifier) := by
  refine ⟨Text.forall₂_firstWords _, ⟨?_, ?_⟩, fun hsound => ⟨?_, ?_⟩⟩
  · intro hnone
    apply not_isBroken_of_isSource hboot hlist
    intro fault hfault
    rw [hnone] at hfault
    cases hfault
  · intro hsound
    obtain ⟨told, -, hlisting⟩ := listing_of_sound hboot hlist hsound
    rw [hlisting]
  · obtain ⟨told, htold, hlisting⟩ := listing_of_sound hboot hlist hsound
    have hnotices : (listing machine program).notices = told.filterMap SessionStep.notice? := by
      rw [hlisting]
      exact filterMap_answered (fun _ => rfl) htold
    refine ⟨told, htold, ?_, ?_, hnotices, ?_⟩
    · rw [hlisting]
      change _ :: List.filterMap _ _ = _
      rw [commands_answered htold]
    · rw [hlisting]
      exact filterMap_answered (fun _ => rfl) htold
    · rw [hnotices]
      exact level_of_mem_notices htold
  · intro identifier outcome houtcome
    exact listing_withLookUp hboot hlist hsound houtcome

/-- A named session, one that cannot be looked up and one without a name. -/
def threeLines : Machine :=
  withLookUp
    (withLookUp (Machine.bare.withOutcome (listCommand ['l']) (.printed "3 u\n\n 4\n5".toList))
      ['l'] ['3'] (.printed (shownAt "5000000".toList)))
    ['l'] ['5'] (.printed (shownAt []))

theorem listing_of_three_lines :
    threeLines.bootTime = .ok .zero ∧
      threeLines.output (listCommand ['l']) = .ok "3 u\n\n 4\n5".toList ∧
      (∀ identifier ∈ identifiers "3 u\n\n 4\n5".toList,
        ¬IsBroken threeLines ['l'] identifier) ∧
      identifiers "3 u\n\n 4\n5".toList = [['3'], ['4'], ['5']] ∧
      (listing threeLines ['l']).fault = none ∧
      (∃ told, List.Forall₂ (Tells threeLines ['l'] .zero) [['3'], ['4'], ['5']] told ∧
        (listing threeLines ['l']).commands =
          listCommand ['l'] :: [['3'], ['4'], ['5']].map (showCommand ['l']) ∧
        (listing threeLines ['l']).sessions = told.filterMap SessionStep.session? ∧
        (listing threeLines ['l']).notices = told.filterMap SessionStep.notice? ∧
        ∀ notice ∈ (listing threeLines ['l']).notices, notice.level = .debug) ∧
      (listing (withLookUp threeLines ['l'] ['3'] (.exited 1)) ['l']).sessions =
        (listing threeLines ['l']).sessions.filter
          fun session => session.identifier != some ['3'] := by
  have hlist : threeLines.output (listCommand ['l']) = .ok "3 u\n\n 4\n5".toList := by
    decide +kernel
  have hsound : ∀ identifier ∈ identifiers "3 u\n\n 4\n5".toList,
      ¬IsBroken threeLines ['l'] identifier := by decide +kernel
  have hids : identifiers "3 u\n\n 4\n5".toList = [['3'], ['4'], ['5']] := by decide +kernel
  obtain ⟨-, hend, hcomplete⟩ := listing_of_readable threeLines ['l'] _ .zero rfl hlist
  obtain ⟨htold, hfailing⟩ := hcomplete hsound
  rw [hids] at htold
  exact ⟨rfl, hlist, hsound, hids, hend.mpr hsound, htold,
    (hfailing ['3'] (.exited 1) (.exited 1)).2⟩

theorem output_list_twoSessions (first second : Text) :
    (twoSessions first second).output (listCommand ['l']) = .ok "1 u\n2 u\n".toList := by
  rw [twoSessions, output_withLookUp_of_ne (listCommand_ne_showCommand _),
    output_withLookUp_of_ne (listCommand_ne_showCommand _), Machine.output,
    Machine.run_withOutcome]

theorem output_twoSessions (first second : Text) :
    (twoSessions first second).output (showCommand ['l'] ['1']) = .ok (shownAt first) := by
  have hother : showCommand ['l'] ['1'] ≠ showCommand ['l'] ['2'] :=
    showCommand_injective.ne (by decide)
  rw [twoSessions, output_withLookUp_of_ne hother, Machine.output, withLookUp,
    Machine.run_withOutcome]

theorem not_counts_of_too_many_zeros {digits : Nat} (h : Numeral.digitLimit < digits) (n : Int) :
    ¬Counts (some (List.replicate digits '0')) n := by
  have hrefused := Numeral.ofText_of_too_many_digits (s := List.replicate digits '0') (by
    intro c hc
    rw [List.eq_of_mem_replicate hc]
    decide) (by rwa [List.length_replicate])
  generalize List.replicate digits '0' = count at hrefused ⊢
  intro hcounts
  cases hcounts with
  | empty => cases hrefused
  | numeral hn => cases hrefused.symm.trans hn

theorem isBroken_of_too_many_zeros {digits : Nat} (h : Numeral.digitLimit < digits)
    (second : Text) : IsBroken (twoSessions (List.replicate digits '0') second) ['l'] ['1'] := by
  have hzeros : ∀ c ∈ List.replicate digits '0', Text.isLineBreak c = false := by
    intro c hc
    rw [List.eq_of_mem_replicate hc]
    decide
  have hproperties := properties_shownAt hzeros
  refine .untimed (output_twoSessions _ second) ⟨⟨['u'], by decide, ?_⟩, ?_⟩
  · rw [hproperties]
    rfl
  · rw [hproperties]
    rintro ⟨n, hcounts, -⟩
    exact not_counts_of_too_many_zeros h n hcounts

theorem sessions_of_too_many_zeros {digits : Nat} (h : Numeral.digitLimit < digits)
    (second : Text) :
    (listing (twoSessions (List.replicate digits '0') second) ['l']).sessions = [] := by
  have hsplit : identifiers "1 u\n2 u\n".toList = [] ++ ['1'] :: [['2']] := by decide +kernel
  have hboot : (twoSessions (List.replicate digits '0') second).bootTime = .ok .zero := rfl
  obtain ⟨told, htold, hsessions, -⟩ := sessions_of_isBroken hboot
    (output_list_twoSessions _ second) hsplit (List.forall_mem_nil _)
    (isBroken_of_too_many_zeros h second)
  cases htold
  exact hsessions

/-- The time of the first session is an integer, but too large for a finite number, or it has too
many digits: the second session is not listed. -/
theorem second_hidden_by_large_count :
    (twoSessions ('1' :: List.replicate 400 '0') ['7']).bootTime = .ok .zero ∧
      (twoSessions ('1' :: List.replicate 400 '0') ['7']).output (listCommand ['l']) =
        .ok "1 u\n2 u\n".toList ∧
      identifiers "1 u\n2 u\n".toList = [['1'], ['2']] ∧
      Numeral.ofText ('1' :: List.replicate 400 '0') = .ok (10 ^ 400) ∧
      (listing (twoSessions ('1' :: List.replicate 400 '0') ['7']) ['l']).fault =
        some (.number .quotientTooLarge) ∧
      (listing (twoSessions ('1' :: List.replicate 400 '0') ['7']) ['l']).sessions = [] ∧
      (listing (twoSessions (List.replicate 4301 '0') ['7']) ['l']).sessions = [] := by
  refine ⟨rfl, output_list_twoSessions _ _, ?_, ?_, ?_, ?_, ?_⟩
  · decide +kernel
  · decide +kernel
  · decide +kernel
  · decide +kernel
  · exact sessions_of_too_many_zeros (by decide) ['7']

end Registry

end LoginReport
