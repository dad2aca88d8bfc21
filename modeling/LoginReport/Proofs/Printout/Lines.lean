import LoginReport.CommandLine
import LoginReport.Proofs.Settings.Budget
import LoginReport.Proofs.Table.Foreign
import Mathlib.Data.List.Forall2

set_option autoImplicit false

/-!
# The lines of a report

A report without a header is a row for each of the sessions that are reported, in the order of their
source. A row is printed on one line, unless foreign text in it has line feeds.
-/

namespace LoginReport

namespace Printout

def shownFor (machine : Machine) (settings : Settings) (table : ProcessTable)
    (session : LoginSession) : Activity :=
  Activity.ofSession machine session table.records settings.onlyOwner

/-- The session is asked for and its login process runs. -/
def isReported (machine : Machine) (settings : Settings) (table : ProcessTable)
    (session : LoginSession) : Bool :=
  session.isOf settings.user && (shownFor machine settings table session).found

def IsRow (machine : Machine) (settings : Settings) (table : ProcessTable)
    (session : LoginSession) (line : Text) : Prop :=
  Table.row machine session (shownFor machine settings table session) settings table.hertz
    machine.now = .ok line

variable {machine : Machine} {settings : Settings} {table : ProcessTable} {lines : List Text}

theorem printSession_ends {session : LoginSession}
    (h : (printSession machine settings table session).Ends lines ()) :
    List.Forall₂ (IsRow machine settings table)
      ([session].filter (isReported machine settings table)) lines := by
  unfold printSession at h
  split at h
  · rename_i huser
    obtain ⟨⟨⟩, first, rest, hnote, hshown, rfl⟩ := Run.ends_bind.mp h
    obtain rfl := Run.ends_note.mp hnote
    split at hshown
    · rename_i hfound
      obtain ⟨line, second, printed, hline, hprint, rfl⟩ := Run.ends_bind.mp hshown
      obtain ⟨hrow, rfl⟩ := Run.ends_ofExcept.mp hline
      obtain rfl := Run.ends_print.mp hprint
      have hreported : isReported machine settings table session = true := by
        rw [isReported, huser, Bool.true_and]
        exact hfound
      rw [List.filter_cons_of_pos hreported]
      exact .cons hrow .nil
    · rename_i hgone
      obtain rfl := Run.ends_note.mp hshown
      have hreported : ¬isReported machine settings table session = true := by
        rw [isReported, huser, Bool.true_and]
        exact hgone
      rw [List.filter_cons_of_neg hreported]
      exact .nil
  · rename_i huser
    obtain ⟨-, rfl⟩ := Run.ends_pure.mp h
    have hreported : ¬isReported machine settings table session = true := by
      rw [isReported, Bool.and_eq_true]
      exact fun hboth => huser hboth.1
    rw [List.filter_cons_of_neg hreported]
    exact .nil

/-- By the steps of the listing: each session adds the rows of `printSession_ends`. -/
theorem printSteps_ends {steps : List SessionStep}
    (h : (printSteps machine settings table steps).Ends lines ()) :
    List.Forall₂ (IsRow machine settings table)
      ((steps.filterMap SessionStep.session?).filter (isReported machine settings table))
      lines := by
  induction steps generalizing lines with
  | nil =>
    obtain ⟨-, rfl⟩ := Run.ends_pure.mp h
    exact .nil
  | cons step rest ih =>
    cases step with
    | ran arguments => exact ih h
    | noted notice =>
      obtain ⟨⟨⟩, first, second, hnote, hrest, rfl⟩ := Run.ends_bind.mp h
      obtain rfl := Run.ends_note.mp hnote
      exact ih hrest
    | found session =>
      obtain ⟨⟨⟩, first, second, hsession, hrest, rfl⟩ := Run.ends_bind.mp h
      change List.Forall₂ _ (([session] ++ rest.filterMap SessionStep.session?).filter _) _
      rw [List.filter_append]
      exact List.rel_append (printSession_ends hsession) (ih hrest)

theorem printSessions_ends {listing : SessionListing}
    (h : (printSessions machine settings table listing).Ends lines ()) :
    List.Forall₂ (IsRow machine settings table)
      (listing.sessions.filter (isReported machine settings table)) lines := by
  obtain ⟨⟨⟩, first, second, hsteps, hend, rfl⟩ := Run.ends_bind.mp h
  split at hend
  · obtain ⟨-, rfl⟩ := Run.ends_pure.mp hend
    rw [List.append_nil]
    exact printSteps_ends hsteps
  · exact absurd hend Run.not_ends_fail

/-- The sessions of the machine's source that get a row. -/
def reported (machine : Machine) (settings : Settings) (table : ProcessTable) :
    List LoginSession :=
  ((SessionSource.ofMachine machine).listing machine).sessions.filter
    (isReported machine settings table)

theorem print_ends (hheader : settings.header = false)
    (h : (print machine settings).Ends lines ()) :
    ∃ table, ProcessTable.capture machine = .ok table ∧
      List.Forall₂ (IsRow machine settings table) (reported machine settings table) lines := by
  obtain ⟨table, first, rest, htable, hrest, rfl⟩ := Run.ends_bind.mp h
  obtain ⟨hcapture, rfl⟩ := Run.ends_ofExcept.mp htable
  obtain ⟨⟨⟩, second, rows, hnone, hrows, rfl⟩ := Run.ends_bind.mp hrest
  unfold printHeader at hnone
  rw [if_neg (by simp [hheader])] at hnone
  obtain ⟨-, rfl⟩ := Run.ends_pure.mp hnone
  exact ⟨table, hcapture, printSessions_ends hrows⟩

/-- The line feeds that others have put into the texts of a row. -/
def foreignFeeds (machine : Machine) (settings : Settings) (table : ProcessTable)
    (session : LoginSession) : Nat :=
  (Table.shownName session settings).count '\n' +
    (Table.shownCommand session (shownFor machine settings table session) settings).count '\n'

/-- By the rows one after the other: each is ended by a line feed of its own. -/
theorem count_newline_rows {sessions : List LoginSession}
    (hterminals : ∀ session ∈ sessions, Text.Printable session.tty)
    (h : List.Forall₂ (IsRow machine settings table) sessions lines) :
    (lines.flatMap Text.plainLine).count '\n' =
      sessions.length + (sessions.map (foreignFeeds machine settings table)).sum := by
  induction h with
  | nil => rfl
  | @cons session line sessions lines hrow hrows ih =>
    have hfeeds := Table.count_newline_row (hterminals session List.mem_cons_self) hrow
    have hrest := ih fun other hother => hterminals other (List.mem_cons_of_mem session hother)
    rw [List.flatMap_cons, List.count_append, Text.count_newline_plainLine, hfeeds, hrest,
      List.length_cons, List.map_cons, List.sum_cons, foreignFeeds]
    omega

theorem printable_tty_of_mem_reported {session : LoginSession}
    (h : session ∈ reported machine settings table) : Text.Printable session.tty :=
  SessionSource.printable_tty_of_mem_listing machine _ session (List.mem_of_mem_filter h)

end Printout

namespace CommandLine

variable {machine : Machine} {arguments : List Text} {switches : Switches} {debugging : Bool}

theorem lengthOf_ends {environment : Text → Option Text} {name : Text} {high default n : Int}
    {lines : List Text} (h : (Settings.lengthOf environment name high default).Ends lines n) :
    lines = [] := by
  have hlines : (Settings.lengthOf environment name high default).lines = [] := by
    unfold Settings.lengthOf
    repeat' split
    all_goals rfl
  exact h.2.symm.trans hlines

/-- Reading the settings prints nothing, and whether there is a header is not changed by it. -/
theorem read_ends {settings : Settings} {lines : List Text}
    (h : (Settings.read machine.environment machine.terminalColumns none switches).Ends lines
      settings) : lines = [] ∧ settings.header = switches.header := by
  obtain ⟨user, first, rest, huser, hrest, rfl⟩ := Run.ends_bind.mp h
  obtain ⟨origin, second, last, horigin, hlast, rfl⟩ := Run.ends_bind.mp hrest
  obtain ⟨columns, third, none, hcolumns, hnone, rfl⟩ := Run.ends_bind.mp hlast
  obtain rfl := lengthOf_ends huser
  obtain rfl := lengthOf_ends horigin
  obtain ⟨-, rfl⟩ := Run.ends_ofExcept.mp hcolumns
  obtain ⟨rfl, rfl⟩ := Run.ends_pure.mp hnone
  exact ⟨rfl, rfl⟩

theorem ends_of_status {run : Run Unit} (h : (outcome run debugging).status = 0) :
    run.Ends (outcome run debugging).lines () := by
  unfold outcome at h ⊢
  cases hresult : run.result with
  | ok value => exact ⟨hresult, rfl⟩
  | error fault =>
    rw [hresult] at h
    cases fault <;> cases h

theorem rows_of_report (hrequest : request arguments = .report switches debugging)
    (hheader : switches.header = false) (hstatus : (execute machine arguments).status = 0) :
    ∃ settings table,
      (Settings.read machine.environment machine.terminalColumns none switches).result =
        .ok settings ∧
      ProcessTable.capture machine = .ok table ∧
      List.Forall₂ (Printout.IsRow machine settings table)
        (Printout.reported machine settings table) (execute machine arguments).lines := by
  have hexecute : execute machine arguments = outcome (report machine switches) debugging := by
    rw [execute, hrequest]
  rw [hexecute] at hstatus ⊢
  obtain ⟨settings, first, rows, hread, hprint, hlines⟩ :=
    Run.ends_bind.mp (ends_of_status hstatus)
  obtain ⟨rfl, hsame⟩ := read_ends hread
  obtain ⟨table, hcapture, hrows⟩ := Printout.print_ends (hsame.trans hheader) hprint
  refine ⟨settings, table, hread.1, hcapture, ?_⟩
  rwa [report, ← hlines]

end CommandLine

end LoginReport
