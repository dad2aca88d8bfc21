import LoginReport.Proofs.CommandLine.Denotation
import LoginReport.Proofs.Printout.Rows

set_option autoImplicit false

/-!
# Reports on one user

A report that names a user has the rows of that user's sessions, with the text and in the order that
they have in the report on everybody, as long as neither has a header. What the other sessions are,
or whether their logins run, has no part in it.
-/

namespace LoginReport

namespace Printout

variable {machine : Machine} {settings : Settings} {table : ProcessTable} {lines : List Text}

/-- Sessions that are reported beside their rows. -/
structure AreRows (machine : Machine) (settings : Settings) (table : ProcessTable)
    (rows : List (LoginSession × Text)) : Prop where
  sessions : rows.map Prod.fst = reported machine settings table
  texts : ∀ row ∈ rows, IsRow machine settings table row.1 row.2

theorem exists_areRows
    (h : List.Forall₂ (IsRow machine settings table) (reported machine settings table) lines) :
    ∃ rows, AreRows machine settings table rows ∧ rows.map Prod.snd = lines := by
  obtain ⟨hlength, hrows⟩ := List.forall₂_iff_zip.mp h
  refine ⟨(reported machine settings table).zip lines, ⟨?_, ?_⟩, ?_⟩
  · exact List.map_fst_zip hlength.le
  · exact fun row hrow => hrows hrow
  · exact List.map_snd_zip hlength.ge

theorem AreRows.forall₂ {rows : List (LoginSession × Text)}
    (h : AreRows machine settings table rows) :
    List.Forall₂ (IsRow machine settings table) (reported machine settings table)
      (rows.map Prod.snd) := by
  rw [← h.sessions, List.forall₂_map_left_iff, List.forall₂_map_right_iff, List.forall₂_same]
  exact h.texts

/-- A user chosen from everybody. -/
theorem AreRows.filter {rows : List (LoginSession × Text)}
    (h : AreRows machine settings table rows) (hall : settings.user = none) (user : Text) :
    AreRows machine { settings with user := some user } table
      (rows.filter fun row => row.1.isOf (some user)) where
  sessions := by
    have hmap : (rows.filter fun row => row.1.isOf (some user)).map Prod.fst =
        (rows.map Prod.fst).filter fun session => session.isOf (some user) := by
      rw [List.filter_map]
      rfl
    rw [hmap, h.sessions, reported, reported, List.filter_filter]
    refine List.filter_congr fun session _ => ?_
    rw [isReported, isReported, hall]
    rfl
  texts := fun row hrow => h.texts row (List.mem_of_mem_filter hrow)

theorem print_of_user (hheader : settings.header = false) (hall : settings.user = none)
    (h : (print machine settings).Ends lines ()) :
    ∃ table rows, ProcessTable.capture machine = .ok table ∧
      AreRows machine settings table rows ∧ rows.map Prod.snd = lines ∧
      ∀ user, (print machine { settings with user := some user }).Ends
        ((rows.filter fun row => row.1.isOf (some user)).map Prod.snd) () := by
  obtain ⟨table, above, printed, hcapture, habove, hfault, hrows, rfl⟩ := print_ends_iff.mp h
  obtain ⟨rows, hareRows, rfl⟩ := exists_areRows hrows
  obtain rfl : above = [] := habove.2.symm.trans (printHeader_of_none hheader).2
  refine ⟨table, rows, hcapture, hareRows, rfl, fun user => ?_⟩
  exact print_ends_iff.mpr ⟨table, [], _, hcapture, printHeader_of_none hheader, hfault,
    (hareRows.filter hall user).forall₂, rfl⟩

end Printout

namespace CommandLine

open Printout

/-- The same switches with the name of a user. -/
structure AddsUser (flags : List Text) (user : Text) (named : List Text) : Prop where
  usable : ¬IsMisused named
  switches : ∀ switch, Gives flags switch ↔ Gives named switch
  user : operands named = [user]

variable {machine : Machine} {flags named : List Text} {user : Text}

theorem goes_on_of_no_dashes (hdashes : ['-', '-'] ∉ flags) :
    ∀ word ∈ flags, (word != ['-', '-']) = true := by
  intro word hword
  exact bne_iff_ne.mpr fun heq => hdashes (heq ▸ hword)

theorem leading_append_dashes (hdashes : ['-', '-'] ∉ flags) (names : List Text) :
    leading (flags ++ ['-', '-'] :: names) = leading flags := by
  have hgo := goes_on_of_no_dashes hdashes
  rw [leading, leading, List.takeWhile_append_of_pos hgo, List.takeWhile_eq_self_iff.mpr hgo]
  exact List.append_nil flags

theorem operands_append_dashes (hdashes : ['-', '-'] ∉ flags) (names : List Text) :
    operands (flags ++ ['-', '-'] :: names) = operands flags ++ names := by
  have hgo := goes_on_of_no_dashes hdashes
  have hnone : trailing flags = [] := by
    rw [trailing, List.dropWhile_eq_nil_iff.mpr hgo, List.drop_nil]
  have hnames : trailing (flags ++ ['-', '-'] :: names) = names := by
    rw [trailing, List.dropWhile_append_of_pos hgo]
    rfl
  rw [operands, operands, leading_append_dashes hdashes, hnone, hnames, List.append_nil]

theorem addsUser_behind_dashes (hused : ¬IsMisused flags) (hall : operands flags = [])
    (hdashes : ['-', '-'] ∉ flags) (user : Text) :
    AddsUser flags user (flags ++ [['-', '-'], user]) where
  usable := by
    rintro (⟨word, hword, hunknown⟩ | hmany)
    · rw [leading_append_dashes hdashes] at hword
      exact hused (Or.inl ⟨word, hword, hunknown⟩)
    · rw [operands_append_dashes hdashes, hall] at hmany
      simp at hmany
  switches := by
    intro switch
    rw [Gives, Gives, leading_append_dashes hdashes]
  user := by
    rw [operands_append_dashes hdashes, hall, List.nil_append]

theorem AddsUser.asksReport (h : AddsUser flags user named) (hreport : AsksReport flags) :
    AsksReport named where
  version := mt (h.switches .version).mpr hreport.version
  help := mt (h.switches .help).mpr hreport.help

/-- Naming a user changes that in the request, and nothing else. -/
theorem exists_switches (hreport : AsksReport flags) (hused : ¬IsMisused flags)
    (hall : operands flags = []) (hheader : Gives flags .noHeader) : ∃ switches debugging,
      request flags = .report switches debugging ∧ switches.user = none ∧
      switches.header = false ∧ ∀ user named, AddsUser flags user named →
        request named = .report { switches with user := some user } debugging := by
  obtain ⟨items, hitems⟩ := exists_items hused
  have hdenotes := denotes_items hitems
  refine ⟨_, _, request_of_items hitems hreport hused, congrArg List.head? hall, ?_, ?_⟩
  · change (!has items .noHeader) = false
    rw [(hdenotes.has_iff .noHeader).mpr hheader, Bool.not_true]
  · intro user named hadds
    obtain ⟨more, hmore⟩ := exists_items hadds.usable
    have hhas := has_eq_of_gives hdenotes (denotes_items hmore) hadds.switches
    rw [request_of_items hmore (hadds.asksReport hreport) hadds.usable, hadds.user, hhas,
      reportSwitches_congr hhas]
    rfl

theorem report_of_user {switches : Switches} {lines : List Text}
    (hheader : switches.header = false) (hall : switches.user = none)
    (h : (report machine switches).Ends lines ()) : ∃ settings table rows,
      (Settings.read machine.environment machine.terminalColumns none switches).result =
        .ok settings ∧
      ProcessTable.capture machine = .ok table ∧ AreRows machine settings table rows ∧
      rows.map Prod.snd = lines ∧
      ∀ user, (report machine { switches with user := some user }).Ends
        ((rows.filter fun row => row.1.isOf (some user)).map Prod.snd) () := by
  obtain ⟨settings, hread, hprint⟩ := report_ends_iff.mp h
  obtain ⟨_, _, _, _, _, _, hsettings⟩ := Settings.read_eq_ok_iff.mp hread
  have hheader' : settings.header = false := by
    rw [← hsettings]
    exact hheader
  have hall' : settings.user = none := by
    rw [← hsettings]
    exact hall
  obtain ⟨table, rows, hcapture, hrows, hlines, huser⟩ := print_of_user hheader' hall' hprint
  refine ⟨settings, table, rows, hread, hcapture, hrows, hlines, fun user => ?_⟩
  exact report_ends_iff.mpr
    ⟨_, Settings.read_of_read (fun settings => { settings with user := some user })
      (fun _ _ _ => rfl) hread, huser user⟩

/-- The rows of one user's sessions are those of the report on everybody that belong to them: none
is missing, changed or moved. A name behind two dashes is taken for a user whatever it is. -/
theorem rows_of_user (machine : Machine) {flags : List Text} (hreport : AsksReport flags)
    (hused : ¬IsMisused flags) (hall : operands flags = []) (hheader : Gives flags .noHeader)
    (hstatus : (execute machine flags).status = 0) :
    (∃ switches debugging settings table rows, request flags = .report switches debugging ∧
      (Settings.read machine.environment machine.terminalColumns none switches).result =
        .ok settings ∧
      ProcessTable.capture machine = .ok table ∧ AreRows machine settings table rows ∧
      output (execute machine flags) = rows.flatMap (fun row => Text.plainLine row.2) ∧
      ∀ user named, AddsUser flags user named →
        (execute machine named).status = 0 ∧
        output (execute machine named) =
          (rows.filter fun row => row.1.isOf (some user)).flatMap
            fun row => Text.plainLine row.2) ∧
    (['-', '-'] ∉ flags → ∀ user, AddsUser flags user (flags ++ [['-', '-'], user])) := by
  refine ⟨?_, fun hdashes user => addsUser_behind_dashes hused hall hdashes user⟩
  obtain ⟨switches, debugging, hrequest, hnobody, hbare, hnamed⟩ :=
    exists_switches hreport hused hall hheader
  have hexecute : execute machine flags = outcome (report machine switches) debugging := by
    rw [execute, hrequest]
  rw [hexecute] at hstatus ⊢
  obtain ⟨settings, table, rows, hread, hcapture, hrows, hlines, huser⟩ :=
    report_of_user hbare hnobody (ends_of_status hstatus)
  refine ⟨switches, debugging, settings, table, rows, hrequest, hread, hcapture, hrows, ?_, ?_⟩
  · rw [output, ← hlines, List.flatMap_map]
  · intro user named hadds
    have hrun : execute machine named =
        outcome (report machine { switches with user := some user }) debugging := by
      rw [execute, hnamed user named hadds]
    rw [hrun, outcome_of_ends (huser user), output, List.flatMap_map]
    exact ⟨rfl, rfl⟩

end CommandLine

/-- A login of `v` on terminal `1`. -/
def RecordFile.secondRecord : LoginRecord :=
  { loginRecord with
    pid := 200
    user := zeroFilled [0x76] }

def Machine.withTwoLogins : Machine :=
  { Machine.bare.withFiles
      [(RecordFile.defaultPath, [RecordFile.loginRecord, RecordFile.secondRecord].flatMap
          LoginRecord.encode),
       (Stat.path 100, "100 (sh) S 1 5 5 0 5 0 0 0 0 0 7 0 0 0 20 0 1 0 90".toUTF8.toList),
       (Stat.path 200, "200 (vi) S 1 6 6 0 6 0 0 0 0 0 9 0 0 0 20 0 1 0 95".toUTF8.toList)] with
    userId := fun name => if name = ['u'] then some 1000 else some 1001
    processes :=
      [.ok { pid := 100, name := some ['s', 'h'], owners := some ⟨1000, 1000⟩, arguments := none,
             askOwners := .error .gone },
       .ok { pid := 200, name := some ['v', 'i'], owners := some ⟨1001, 1001⟩, arguments := none,
             askOwners := .error .gone }] }

/-- The rows of the two logins. -/
def Machine.firstRow : Text :=
  "u        1        -                00:01    0.00s  0.00s  0.07s [sh]\n".toList

def Machine.secondRow : Text :=
  "v        1        -                00:01    0.00s  0.00s  0.09s [vi]\n".toList

namespace CommandLine

open Printout

/-- The report on `v` is the second line of the report on everybody. -/
theorem rows_of_second_user :
    AsksReport [['-', 'h']] ∧ ¬IsMisused [['-', 'h']] ∧ operands [['-', 'h']] = [] ∧
      Gives [['-', 'h']] .noHeader ∧ (execute Machine.withTwoLogins [['-', 'h']]).status = 0 ∧
      (∃ switches debugging settings table rows,
        request [['-', 'h']] = .report switches debugging ∧
        (Settings.read Machine.withTwoLogins.environment none none switches).result =
          .ok settings ∧
        ProcessTable.capture Machine.withTwoLogins = .ok table ∧
        AreRows Machine.withTwoLogins settings table rows ∧
        rows.flatMap (fun row => Text.plainLine row.2) =
          Machine.firstRow ++ Machine.secondRow ∧
        Machine.secondRow = (rows.filter fun row => row.1.isOf (some ['v'])).flatMap
          fun row => Text.plainLine row.2) := by
  have hitems : items? [['-', 'h']] = some [.switch .noHeader] := rfl
  have hreport : AsksReport [['-', 'h']] := (denotes_items hitems).asksReport_iff.mpr rfl
  have hused : ¬IsMisused [['-', 'h']] := mt (isMisused_iff hitems).mp (by decide)
  have hheader : Gives [['-', 'h']] .noHeader :=
    ((denotes_items hitems).switches .noHeader).mp (by decide)
  have hstatus : (execute Machine.withTwoLogins [['-', 'h']]).status = 0 := by decide +kernel
  obtain ⟨⟨switches, debugging, settings, table, rows, hrequest, hread, hcapture, hrows, hlines,
    huser⟩, hname⟩ := rows_of_user Machine.withTwoLogins hreport hused rfl hheader hstatus
  refine ⟨hreport, hused, rfl, hheader, hstatus, switches, debugging, settings, table, rows,
    hrequest, hread, hcapture, hrows, ?_, ?_⟩
  · rw [← hlines]
    decide +kernel
  · rw [← (huser ['v'] _ (hname (by decide) ['v'])).2]
    decide +kernel

end CommandLine

end LoginReport
