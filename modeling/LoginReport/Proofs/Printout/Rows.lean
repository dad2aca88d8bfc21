import LoginReport.Proofs.Printout.Atomic

set_option autoImplicit false

/-!
# When a report comes to a good end

A report comes to a good end exactly if its header does, no fault ends the listing of its sessions,
and every session that is reported has a row. Then it has printed the header and these rows.
-/

namespace LoginReport

namespace Printout

variable {machine : Machine} {settings : Settings} {table : ProcessTable} {lines : List Text}

theorem printSession_of_reported {session : LoginSession} {line : Text}
    (h : isReported machine settings table session = true)
    (hrow : IsRow machine settings table session line) :
    (printSession machine settings table session).Ends [line] () := by
  obtain ⟨huser, hfound⟩ := Bool.and_eq_true_iff.mp h
  unfold printSession
  rw [if_pos huser]
  refine Run.ends_bind.mpr ⟨(), [], [line], Run.ends_note.mpr rfl, ?_, rfl⟩
  split
  · exact Run.ends_bind.mpr ⟨line, [], [line], Run.ends_ofExcept.mpr ⟨hrow, rfl⟩,
      Run.ends_print.mpr rfl, rfl⟩
  · rename_i hgone
    exact absurd hfound hgone

theorem printSession_of_not_reported {session : LoginSession}
    (h : ¬isReported machine settings table session = true) :
    (printSession machine settings table session).Ends [] () := by
  unfold printSession
  split
  · rename_i huser
    refine Run.ends_bind.mpr ⟨(), [], [], Run.ends_note.mpr rfl, ?_, rfl⟩
    split
    · rename_i hfound
      exact absurd (Bool.and_eq_true_iff.mpr ⟨huser, hfound⟩) h
    · exact Run.ends_note.mpr rfl
  · exact Run.ends_pure.mpr ⟨rfl, rfl⟩

/-- By the steps of the listing, each of which adds one row or none. -/
theorem printSteps_of_rows {steps : List SessionStep}
    (h : List.Forall₂ (IsRow machine settings table)
      ((steps.filterMap SessionStep.session?).filter (isReported machine settings table)) lines) :
    (printSteps machine settings table steps).Ends lines () := by
  induction steps generalizing lines with
  | nil =>
    obtain rfl := List.forall₂_nil_left_iff.mp h
    exact Run.ends_pure.mpr ⟨rfl, rfl⟩
  | cons step rest ih =>
    cases step with
    | ran arguments => exact ih h
    | noted notice =>
      exact Run.ends_bind.mpr ⟨(), [], lines, Run.ends_note.mpr rfl, ih h, rfl⟩
    | found session =>
      change List.Forall₂ _
        ((session :: rest.filterMap SessionStep.session?).filter _) lines at h
      by_cases hreported : isReported machine settings table session = true
      · rw [List.filter_cons_of_pos hreported] at h
        obtain ⟨line, more, hrow, hmore, rfl⟩ := List.forall₂_cons_left_iff.mp h
        exact Run.ends_bind.mpr ⟨(), [line], more, printSession_of_reported hreported hrow,
          ih hmore, rfl⟩
      · rw [List.filter_cons_of_neg hreported] at h
        exact Run.ends_bind.mpr ⟨(), [], lines, printSession_of_not_reported hreported, ih h, rfl⟩

theorem printSessions_ends_iff {listing : SessionListing} :
    (printSessions machine settings table listing).Ends lines () ↔
      listing.fault = none ∧ List.Forall₂ (IsRow machine settings table)
        (listing.sessions.filter (isReported machine settings table)) lines := by
  constructor
  · intro h
    refine ⟨?_, printSessions_ends h⟩
    obtain ⟨⟨⟩, first, second, -, hend, -⟩ := Run.ends_bind.mp h
    split at hend
    · assumption
    · exact absurd hend Run.not_ends_fail
  · rintro ⟨hfault, hrows⟩
    refine Run.ends_bind.mpr ⟨(), lines, [], printSteps_of_rows hrows, ?_, List.append_nil lines⟩
    rw [hfault]
    exact Run.ends_pure.mpr ⟨rfl, rfl⟩

theorem print_ends_iff :
    (print machine settings).Ends lines () ↔ ∃ table above rows,
      ProcessTable.capture machine = .ok table ∧ (printHeader machine settings).Ends above () ∧
      ((SessionSource.ofMachine machine).listing machine).fault = none ∧
      List.Forall₂ (IsRow machine settings table) (reported machine settings table) rows ∧
      above ++ rows = lines := by
  constructor
  · intro h
    obtain ⟨table, first, rest, htable, hrest, rfl⟩ := Run.ends_bind.mp h
    obtain ⟨hcapture, rfl⟩ := Run.ends_ofExcept.mp htable
    obtain ⟨⟨⟩, above, rows, hheader, hsessions, rfl⟩ := Run.ends_bind.mp hrest
    obtain ⟨hfault, hrows⟩ := printSessions_ends_iff.mp hsessions
    exact ⟨table, above, rows, hcapture, hheader, hfault, hrows, rfl⟩
  · rintro ⟨table, above, rows, hcapture, hheader, hfault, hrows, rfl⟩
    refine Run.ends_bind.mpr ⟨table, [], above ++ rows, Run.ends_ofExcept.mpr ⟨hcapture, rfl⟩,
      Run.ends_bind.mpr ⟨(), above, rows, hheader, ?_, rfl⟩, rfl⟩
    exact printSessions_ends_iff.mpr ⟨hfault, hrows⟩

theorem printHeader_of_none (h : settings.header = false) :
    (printHeader machine settings).Ends [] () := by
  unfold printHeader
  rw [if_neg (by simp [h])]
  exact Run.ends_pure.mpr ⟨rfl, rfl⟩

end Printout

namespace CommandLine

variable {machine : Machine} {switches : Switches} {run : Run Unit} {lines : List Text}

theorem report_ends_iff : (report machine switches).Ends lines () ↔ ∃ settings,
    (Settings.read machine.environment machine.terminalColumns none switches).result =
      .ok settings ∧ (Printout.print machine settings).Ends lines () := by
  constructor
  · intro h
    obtain ⟨settings, first, rest, hread, hprint, rfl⟩ := Run.ends_bind.mp h
    obtain ⟨rfl, -⟩ := read_ends hread
    exact ⟨settings, hread.1, hprint⟩
  · rintro ⟨settings, hread, hprint⟩
    exact Run.ends_bind.mpr ⟨settings, [], lines, ⟨hread, (read_ends ⟨hread, rfl⟩).1⟩, hprint, rfl⟩

theorem outcome_of_ends (h : run.Ends lines ()) (debugging : Bool) :
    outcome run debugging = ⟨0, lines, Notice.kept debugging run.notices, none⟩ := by
  obtain ⟨hresult, rfl⟩ := h
  rw [outcome, hresult]

end CommandLine

/-- Where the switches change in what the settings take over as it is, so do the settings. -/
theorem Settings.read_of_read {environment : Text → Option Text} {terminal width : Option Int}
    {switches others : Switches} {settings : Settings} (change : Settings → Settings)
    (hchange : ∀ user origin columns,
      ofSwitches others user origin columns = change (ofSwitches switches user origin columns))
    (h : (read environment terminal width switches).result = .ok settings) :
    (read environment terminal width others).result = .ok (change settings) := by
  obtain ⟨user, huser, origin, horigin, columns, hcolumns, rfl⟩ := read_eq_ok_iff.mp h
  exact read_eq_ok_iff.mpr ⟨user, huser, origin, horigin, columns, hcolumns, hchange _ _ _⟩

end LoginReport
