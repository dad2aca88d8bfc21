import LoginReport.Proofs.CommandLine.UserRows

set_option autoImplicit false

/-!
# Switches that only observe

Without a header a report has the same rows, and nothing else. With debugging it tells more, and is
the same in all other respects, also where it fails.
-/

namespace LoginReport

/-- Whoever asks for debugging is told everything, and everybody else what is no debugging. -/
theorem Notice.kept_of_all (notices : List Notice) : Notice.kept false notices =
    (Notice.kept true notices).filter fun notice => notice.level != .debug := by
  have hall : Notice.kept true notices = notices := List.filter_true notices
  rw [hall]
  rfl

namespace Printout

variable {machine : Machine} {settings : Settings} {lines : List Text}

theorem print_without_header (hbounds : settings.InBounds) (hheader : settings.header = true)
    (h : (print machine settings).Ends lines ()) : ∃ text rows,
      uptime machine settings = .ok text ∧
      [text, Table.titleLine settings] ++ rows = lines ∧
      (print machine { settings with header := false }).Ends rows () := by
  obtain ⟨table, above, rows, hcapture, habove, hfault, hrows, rfl⟩ := print_ends_iff.mp h
  rcases printHeader_ends hbounds habove with ⟨hoff, -⟩ | ⟨-, text, htext, rfl⟩
  · rw [hheader] at hoff
    cases hoff
  · refine ⟨text, rows, htext, rfl, print_ends_iff.mpr ?_⟩
    exact ⟨table, [], rows, hcapture, printHeader_of_none rfl, hfault, hrows, rfl⟩

end Printout

namespace CommandLine

open Printout

variable {machine : Machine} {switches : Switches} {lines : List Text}
variable {arguments : List Text} {items : List Item}

theorem report_without_header (hheader : switches.header = true)
    (h : (report machine switches).Ends lines ()) : ∃ settings text rows,
      (Settings.read machine.environment machine.terminalColumns none switches).result =
        .ok settings ∧
      uptime machine settings = .ok text ∧ [text, Table.titleLine settings] ++ rows = lines ∧
      (report machine { switches with header := false }).Ends rows () := by
  obtain ⟨settings, hread, hprint⟩ := report_ends_iff.mp h
  have hsame := (read_ends ⟨hread, rfl⟩).2
  obtain ⟨text, rows, htext, hlines, hrows⟩ :=
    print_without_header (Settings.inBounds_of_read hread) (hsame.trans hheader) hprint
  refine ⟨settings, text, rows, hread, htext, hlines, report_ends_iff.mpr ⟨_, ?_, hrows⟩⟩
  exact Settings.read_of_read (fun settings => { settings with header := false })
    (fun _ _ _ => rfl) hread

/-- One more switch in front is one more item, and no other of them is moved. -/
theorem request_cons (word : Text) (switch : Switch) (hne : word ≠ ['-', '-'])
    (hword : isSwitchWord word = true) (hswitch : switches? word = some [switch])
    (hversion : switch ≠ .version) (hhelp : switch ≠ .help) (hitems : items? arguments = some items)
    (hreport : AsksReport arguments) (hused : ¬IsMisused arguments) :
    request (word :: arguments) =
      .report (reportSwitches (.switch switch :: items) (operands arguments).head?)
        (has (.switch switch :: items) .debug) := by
  have hgives : ∀ other, Gives (word :: arguments) other ↔ other = switch ∨ Gives arguments other :=
    fun other => by
      rw [gives_cons_iff hne, ← mem_switches?_iff hword hswitch, List.mem_singleton]
  have hmore : items? (word :: arguments) = some (.switch switch :: items) := by
    rw [items?_of_switchWord hne hword, hswitch, hitems]
    rfl
  have hreport' : AsksReport (word :: arguments) := by
    constructor
    · rw [hgives, not_or]
      exact ⟨hversion.symm, hreport.version⟩
    · rw [hgives, not_or]
      exact ⟨hhelp.symm, hreport.help⟩
  have hused' : ¬IsMisused (word :: arguments) := by
    rw [isMisused_iff hitems] at hused
    rw [isMisused_iff hmore]
    exact hused
  rw [request_of_items hmore hreport' hused', operands_of_switchWord hne hword]

theorem request_noHeader_cons (hreport : AsksReport arguments) (hused : ¬IsMisused arguments)
    (hheader : ¬Gives arguments .noHeader) : ∃ switches debugging,
      request arguments = .report switches debugging ∧ switches.header = true ∧
      request (['-', 'h'] :: arguments) = .report { switches with header := false } debugging := by
  obtain ⟨items, hitems⟩ := exists_items hused
  refine ⟨_, _, request_of_items hitems hreport hused, ?_, ?_⟩
  · rw [← (denotes_items hitems).has_iff, Bool.not_eq_true] at hheader
    rw [reportSwitches, hheader]
    rfl
  · exact request_cons ['-', 'h'] .noHeader (by decide) rfl rfl (by decide) (by decide) hitems
      hreport hused

theorem request_debug_cons (hreport : AsksReport arguments) (hused : ¬IsMisused arguments)
    (hquiet : ¬Gives arguments .debug) : ∃ switches,
      request arguments = .report switches false ∧
      request ("--debug".toList :: arguments) = .report switches true := by
  obtain ⟨items, hitems⟩ := exists_items hused
  refine ⟨_, ?_, request_cons "--debug".toList .debug (by decide) rfl rfl (by decide) (by decide)
    hitems hreport hused⟩
  rw [← (denotes_items hitems).has_iff, Bool.not_eq_true] at hquiet
  rw [request_of_items hitems hreport hused, hquiet]
  rfl

/-- Debugging decides which notices are kept. -/
structure DiffersInNotices (quiet loud : Outcome) : Prop where
  output : output loud = output quiet
  status : loud.status = quiet.status
  escaped : loud.escaped = quiet.escaped
  notices : quiet.notices = loud.notices.filter fun notice => notice.level != .debug

theorem outcome_differsInNotices (run : Run Unit) :
    DiffersInNotices (outcome run false) (outcome run true) := by
  unfold outcome
  split
  · exact ⟨rfl, rfl, rfl, Notice.kept_of_all _⟩
  · exact ⟨rfl, rfl, rfl, Notice.kept_of_all _⟩
  · exact ⟨rfl, rfl, rfl, Notice.kept_of_all _⟩

/-- The switch against the header takes away two lines, and nothing else, from a report that comes
to a good end. The switch for debugging adds notices, and nothing else, to any report. -/
theorem switches_observe (machine : Machine) {arguments : List Text}
    (hreport : AsksReport arguments) (hused : ¬IsMisused arguments) :
    (¬Gives arguments .noHeader → (execute machine arguments).status = 0 →
      (execute machine (['-', 'h'] :: arguments)).status = 0 ∧
      ∃ switches debugging settings text titles,
        request arguments = .report switches debugging ∧
        (Settings.read machine.environment machine.terminalColumns none switches).result =
          .ok settings ∧
        uptime machine settings = .ok text ∧ Text.Printable text ∧
        Table.titles settings = .ok titles ∧ Text.Printable titles ∧
        output (execute machine arguments) =
          text ++ '\n' :: titles ++ '\n' :: output (execute machine (['-', 'h'] :: arguments))) ∧
    (¬Gives arguments .debug → DiffersInNotices (execute machine arguments)
      (execute machine ("--debug".toList :: arguments))) := by
  constructor
  · intro hheader hstatus
    obtain ⟨switches, debugging, hrequest, hon, hoff⟩ :=
      request_noHeader_cons hreport hused hheader
    have hfull : execute machine arguments = outcome (report machine switches) debugging := by
      rw [execute, hrequest]
    have hbare : execute machine (['-', 'h'] :: arguments) =
        outcome (report machine { switches with header := false }) debugging := by
      rw [execute, hoff]
    rw [hfull] at hstatus ⊢
    obtain ⟨settings, text, rows, hread, htext, hlines, hrows⟩ :=
      report_without_header hon (ends_of_status hstatus)
    rw [hbare, outcome_of_ends hrows]
    refine ⟨rfl, switches, debugging, settings, text, Table.titleLine settings, hrequest, hread,
      htext, printable_uptime htext, Table.titles_ok (Settings.inBounds_of_read hread),
      Table.printable_titleLine settings, ?_⟩
    rw [output, ← hlines, List.flatMap_append, plainLines_header htext, List.append_assoc]
    rfl
  · intro hquiet
    obtain ⟨switches, hrequest, hdebug⟩ := request_debug_cons hreport hused hquiet
    rw [execute, execute, hrequest, hdebug]
    exact outcome_differsInNotices _

end CommandLine

/-- The second of two logins is gone. -/
def Machine.withGoneLogin : Machine :=
  { Machine.withTwoLogins with processes := Machine.withTwoLogins.processes.take 1 }

namespace CommandLine

open Printout

theorem switches_observe_gone_login :
    AsksReport [['-', 's']] ∧ ¬IsMisused [['-', 's']] ∧ ¬Gives [['-', 's']] .noHeader ∧
      ¬Gives [['-', 's']] .debug ∧ (execute Machine.withGoneLogin [['-', 's']]).status = 0 ∧
      (∃ switches debugging settings text titles,
        request [['-', 's']] = .report switches debugging ∧
        (Settings.read Machine.withGoneLogin.environment none none switches).result =
          .ok settings ∧
        uptime Machine.withGoneLogin settings = .ok text ∧ Text.Printable text ∧
        Table.titles settings = .ok titles ∧ Text.Printable titles ∧
        output (execute Machine.withGoneLogin [['-', 's']]) = text ++ '\n' :: titles ++ '\n' ::
          output (execute Machine.withGoneLogin [['-', 'h'], ['-', 's']])) ∧
      DiffersInNotices (execute Machine.withGoneLogin [['-', 's']])
        (execute Machine.withGoneLogin ["--debug".toList, ['-', 's']]) ∧
      (execute Machine.withGoneLogin ["--debug".toList, ['-', 's']]).notices =
        [.loginGone ['v'] ['1'] 200] := by
  have hitems : items? [['-', 's']] = some [.switch .short] := rfl
  have hdenotes := denotes_items hitems
  have hreport : AsksReport [['-', 's']] := hdenotes.asksReport_iff.mpr rfl
  have hused : ¬IsMisused [['-', 's']] := mt (isMisused_iff hitems).mp (by decide)
  have hheader : ¬Gives [['-', 's']] .noHeader := mt (hdenotes.switches _).mpr (by decide)
  have hquiet : ¬Gives [['-', 's']] .debug := mt (hdenotes.switches _).mpr (by decide)
  have hstatus : (execute Machine.withGoneLogin [['-', 's']]).status = 0 := by decide +kernel
  obtain ⟨hbare, hdebug⟩ := switches_observe Machine.withGoneLogin hreport hused
  exact ⟨hreport, hused, hheader, hquiet, hstatus, (hbare hheader hstatus).2, hdebug hquiet,
    by decide +kernel⟩

end CommandLine

end LoginReport
