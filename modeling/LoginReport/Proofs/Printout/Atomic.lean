import LoginReport.Proofs.Printout.Clean
import LoginReport.Proofs.Printout.Faults
import LoginReport.Proofs.Printout.Header
import LoginReport.Proofs.Printout.Notices

set_option autoImplicit false

/-!
# Reports that a source ends

A source fails before it gives its first session, and the header is made before its first line is
printed. So a report that a source ends has no row: it has the whole header where the sessions
failed, and nothing at all where the process table or the uptime did.
-/

namespace LoginReport

/-- The default record file may not be read, and every other file holds a login. -/
def Machine.withLockedRecords : Machine :=
  { Machine.bare with
    contents := fun path =>
      if path = RecordFile.defaultPath then .error ⟨13, none⟩
      else .ok RecordFile.loginRecord.encode }

namespace Printout

variable {machine : Machine} {settings : Settings} {table : ProcessTable} {lines : List Text}
variable {cause : SourceFault}

/-- Both lines are made before the first is printed. -/
theorem printHeader_fails (h : (printHeader machine settings).Fails lines (.source cause)) :
    lines = [] ∧ cause.source = .uptime := by
  unfold printHeader at h
  split at h
  · rcases Run.fails_bind.mp h with huptime | ⟨text, first, rest, huptime, hrest, rfl⟩
    · obtain ⟨hfault, rfl⟩ := Run.fails_ofExcept.mp huptime
      exact ⟨rfl, (uptime_faults machine settings).source_eq hfault⟩
    · rcases Run.fails_bind.mp hrest with hheader | ⟨made, second, printed, -, hprint, -⟩
      · have hvalue := header_faults settings text
        exact absurd (Run.fails_ofExcept.mp hheader).1 (hvalue.ne_source cause)
      · exact absurd hprint Run.not_fails_print
  · exact absurd h Run.not_fails_pure

theorem printHeader_ends (hbounds : settings.InBounds)
    (h : (printHeader machine settings).Ends lines ()) :
    (settings.header = false ∧ lines = []) ∨ (settings.header = true ∧
      ∃ text, uptime machine settings = .ok text ∧ lines = [text, Table.titleLine settings]) := by
  unfold printHeader at h
  split at h
  · rename_i hheader
    obtain ⟨text, first, rest, hmade, hrest, rfl⟩ := Run.ends_bind.mp h
    obtain ⟨huptime, rfl⟩ := Run.ends_ofExcept.mp hmade
    obtain ⟨both, second, printed, hboth, hprint, rfl⟩ := Run.ends_bind.mp hrest
    obtain ⟨hlines, rfl⟩ := Run.ends_ofExcept.mp hboth
    obtain rfl := Run.ends_print.mp hprint
    obtain rfl := Except.ok.inj ((header_eq hbounds text).symm.trans hlines)
    exact Or.inr ⟨hheader, text, huptime, rfl⟩
  · rename_i hheader
    obtain ⟨-, rfl⟩ := Run.ends_pure.mp h
    exact Or.inl ⟨Bool.eq_false_iff.mpr hheader, rfl⟩

/-- The rows are those of `printSteps_ends`, and a listing that fails as a source has no session. -/
theorem printSessions_fails {source : SessionSource}
    (h : (printSessions machine settings table (source.listing machine)).Fails lines
      (.source cause)) :
    lines = [] ∧ cause.source = .sessions ∧ (source.listing machine).sessions = [] := by
  rcases Run.fails_bind.mp h with hsteps | ⟨⟨⟩, rows, rest, hrows, hend, rfl⟩
  · have hvalue := printSteps_faults machine settings table (source.listing machine).steps
    exact absurd hsteps.1 (hvalue.ne_source cause)
  · split at hend
    · exact absurd hend Run.not_fails_pure
    · rename_i fault hfault
      obtain ⟨rfl, rfl⟩ := Run.fails_fail.mp hend
      obtain ⟨hnone, hsource⟩ := SessionSource.listing_of_source_fault hfault
      have hall := printSteps_ends hrows
      change List.Forall₂ _ ((source.listing machine).sessions.filter _) _ at hall
      rw [hnone, List.filter_nil, List.forall₂_nil_left_iff] at hall
      exact ⟨by rw [hall, List.append_nil], hsource, hnone⟩

theorem print_fails (h : (print machine settings).Fails lines (.source cause)) :
    (cause.source ≠ .sessions ∧ lines = []) ∨
      (cause.source = .sessions ∧ (printHeader machine settings).Ends lines ()) := by
  rcases Run.fails_bind.mp h with htable | ⟨table, first, rest, htable, hrest, rfl⟩
  · obtain ⟨hfault, rfl⟩ := Run.fails_ofExcept.mp htable
    have hsource := (ProcessTable.capture_faults machine).source_eq hfault
    exact Or.inl ⟨by simp [hsource], rfl⟩
  · obtain ⟨-, rfl⟩ := Run.ends_ofExcept.mp htable
    rcases Run.fails_bind.mp hrest with hheader | ⟨⟨⟩, above, rows, hheader, hsessions, rfl⟩
    · obtain ⟨rfl, hsource⟩ := printHeader_fails hheader
      exact Or.inl ⟨by simp [hsource], rfl⟩
    · obtain ⟨rfl, hsource, -⟩ := printSessions_fails hsessions
      rw [List.append_nil, List.nil_append]
      exact Or.inr ⟨hsource, hheader⟩

end Printout

namespace CommandLine

open Printout

variable {machine : Machine} {arguments : List Text} {switches : Switches} {debugging : Bool}
variable {cause : SourceFault}

theorem report_fails {lines : List Text}
    (h : (report machine switches).Fails lines (.source cause)) :
    ∃ settings,
      (Settings.read machine.environment machine.terminalColumns none switches).result =
        .ok settings ∧
      settings.header = switches.header ∧ (print machine settings).Fails lines (.source cause) := by
  rcases Run.fails_bind.mp h with hread | ⟨settings, first, rest, hread, hprint, rfl⟩
  · exact absurd hread.1 ((Settings.read_faults _ _ _).ne_source cause)
  · obtain ⟨rfl, hheader⟩ := read_ends hread
    exact ⟨settings, hread.1, hheader, hprint⟩

theorem outcome_of_source_fault {run : Run Unit} (h : run.result = .error (.source cause)) :
    outcome run debugging =
      ⟨1, run.lines, Notice.kept debugging (run.notices ++ [.ended cause.message]), none⟩ := by
  rw [outcome, h]

/-- What is printed before a source ends the report: the header, where it was wanted and the
sessions were the first to fail. -/
theorem output_of_source_fault {lines : List Text}
    (h : (report machine switches).Fails lines (.source cause)) :
    (cause.source ≠ .sessions ∨ switches.header = false → lines = []) ∧
    (cause.source = .sessions → switches.header = true → ∃ settings text titles,
      (Settings.read machine.environment machine.terminalColumns none switches).result =
        .ok settings ∧
      uptime machine settings = .ok text ∧ Table.titles settings = .ok titles ∧
      lines.flatMap Text.plainLine = text ++ '\n' :: titles ++ ['\n']) := by
  obtain ⟨settings, hread, hsame, hprint⟩ := report_fails h
  rw [← hsame]
  have hbounds := Settings.inBounds_of_read hread
  rcases print_fails hprint with ⟨hother, rfl⟩ | ⟨hsessions, hheader⟩
  · exact ⟨fun _ => rfl, fun hsource => absurd hsource hother⟩
  · rcases printHeader_ends hbounds hheader with ⟨hoff, rfl⟩ | ⟨hon, text, htext, rfl⟩
    · refine ⟨fun _ => rfl, fun _ hon => ?_⟩
      rw [hoff] at hon
      cases hon
    · refine ⟨fun hnone => ?_, fun _ _ => ⟨settings, text, Table.titleLine settings, hread, htext,
        Table.titles_ok hbounds, plainLines_header htext⟩⟩
      rcases hnone with hother | hoff
      · exact absurd hsessions hother
      · rw [hon] at hoff
        cases hoff

/-- A report that a source ends has no row, whatever the arguments and the machine are, and no
source ends a report once it has given a session. -/
theorem execute_of_source_fault (machine : Machine) :
    (∀ (source : SessionSource) (settings : Settings) (table : ProcessTable),
      (source.listing machine).sessions ≠ [] → ∀ cause,
        (printSessions machine settings table (source.listing machine)).result ≠
          .error (.source cause)) ∧
    ∀ (arguments : List Text) (switches : Switches) (debugging : Bool) (cause : SourceFault),
      request arguments = .report switches debugging →
      (report machine switches).result = .error (.source cause) →
      (execute machine arguments).status = 1 ∧
      (execute machine arguments).escaped = none ∧
      (execute machine arguments).notices.filter Notice.isError = [.ended cause.message] ∧
      (cause.source ≠ .sessions ∨ switches.header = false →
        output (execute machine arguments) = []) ∧
      (cause.source = .sessions → switches.header = true → ∃ settings text titles,
        (Settings.read machine.environment machine.terminalColumns none switches).result =
          .ok settings ∧
        uptime machine settings = .ok text ∧ Table.titles settings = .ok titles ∧
        output (execute machine arguments) = text ++ '\n' :: titles ++ ['\n']) := by
  constructor
  · intro source settings table hsessions cause hcause
    exact hsessions (printSessions_fails ⟨hcause, rfl⟩).2.2
  · intro arguments switches debugging cause hrequest hcause
    have hexecute : execute machine arguments = outcome (report machine switches) debugging := by
      rw [execute, hrequest]
    obtain ⟨hnone, hheader⟩ := output_of_source_fault ⟨hcause, rfl⟩
    rw [hexecute, outcome_of_source_fault hcause]
    refine ⟨rfl, rfl, (quiet_report machine switches).errors_of_ended debugging _, ?_, hheader⟩
    intro hwhere
    rw [output, hnone hwhere]
    rfl

/-- The header stands above a record file that may not be read, and a file of one login is read. -/
theorem header_above_locked_records :
    ((SessionSource.recordFile []).listing Machine.withLockedRecords).sessions ≠ [] ∧
    (printSessions Machine.withLockedRecords {} ⟨[], 100⟩
      ((SessionSource.recordFile []).listing Machine.withLockedRecords)).result ≠
        .error (.source .noProcessTable) ∧
    request [] = .report {} false ∧
    (report Machine.withLockedRecords {}).result =
      .error (.source (.recordFile RecordFile.defaultPath ⟨13, none⟩)) ∧
    (execute Machine.withLockedRecords []).status = 1 ∧
    (execute Machine.withLockedRecords []).escaped = none ∧
    (execute Machine.withLockedRecords []).notices.filter Notice.isError =
      [.ended "Cannot read /var/run/utmp: [Errno 13] Permission denied".toList] ∧
    ∃ settings text titles,
      (Settings.read Machine.withLockedRecords.environment none none {}).result = .ok settings ∧
      uptime Machine.withLockedRecords settings = .ok text ∧ Table.titles settings = .ok titles ∧
      output (execute Machine.withLockedRecords []) = text ++ '\n' :: titles ++ ['\n'] := by
  have hsessions :
      ((SessionSource.recordFile []).listing Machine.withLockedRecords).sessions ≠ [] := by
    decide +kernel
  have hcause : (report Machine.withLockedRecords {}).result =
      .error (.source (.recordFile RecordFile.defaultPath ⟨13, none⟩)) := by decide +kernel
  obtain ⟨hlater, hreport⟩ := execute_of_source_fault Machine.withLockedRecords
  obtain ⟨hstatus, hescaped, hnotice, -, hheader⟩ := hreport [] {} false _ rfl hcause
  exact ⟨hsessions, hlater _ _ _ hsessions _, rfl, hcause, hstatus, hescaped, hnotice,
    hheader rfl rfl⟩

end CommandLine

end LoginReport
