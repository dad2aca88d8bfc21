import LoginReport.Proofs.Machine
import LoginReport.Proofs.Printout.Lines
import LoginReport.Proofs.Session.RoundTrip

set_option autoImplicit false

/-!
# Clean rows

A row is clean where the user's name and the command are, and a report has one line for each session
that is reported where neither has a line feed. Nothing takes control characters out of these two,
and any process may put some into its arguments.
-/

namespace LoginReport

/-- A login of `u` on terminal `1`. -/
def RecordFile.loginRecord : LoginRecord :=
  { bootRecord with
    kind := 7
    pid := 100
    line := zeroFilled [0x31]
    user := zeroFilled [0x75] }

def LoginSession.recorded : LoginSession := RecordFile.session RecordFile.loginRecord.encode

/-- One login, of a process with these arguments. -/
def Machine.withLogin (arguments : List Text) : Machine :=
  { Machine.bare.withFiles
      [(RecordFile.defaultPath, RecordFile.loginRecord.encode),
       (Stat.path 100, "100 (sh) S 1 5 5 0 5 0 0 0 0 0 7 0 0 0 20 0 1 0 90".toUTF8.toList)] with
    userId := fun _ => some 1000
    processes :=
      [.ok { pid := 100, name := none, owners := some ⟨1000, 1000⟩, arguments := some arguments,
             askOwners := .error .gone }] }

def Machine.withPlainLogin : Machine := .withLogin [['l', 's'], ['-', 'a']]

def Machine.withSplitLogin : Machine := .withLogin [['a', '\n', 'b']]

def ProcessTable.ofLogin (command : Text) : ProcessTable :=
  ⟨[{ pid := 100, leader := 100, effective := 1000, real := 1000, terminal := 0, group := 5,
      foreground := 5, ticks := 7, startTime := 90, command }], 100⟩

namespace CommandLine

open Printout

/-- What keeps the rows of a report from being one clean line each: the shown names and commands,
and nothing else. -/
theorem clean_iff (machine : Machine) :
    (∀ source : SessionSource, ∀ session ∈ (source.listing machine).sessions,
      ∀ (later : Machine) (shown : Activity) (settings : Settings) (hertz : Int)
        (now : Binary64) (text : Text),
        Table.row later session shown settings hertz now = .ok text →
        ∀ c, Text.IsControl c → (c ∈ text ↔ c ∈ Table.shownName session settings ∨
          c ∈ Table.shownCommand session shown settings)) ∧
    ∀ (arguments : List Text) (switches : Switches) (debugging : Bool),
      request arguments = .report switches debugging → switches.header = false →
      (execute machine arguments).status = 0 →
      ∃ settings table,
        (Settings.read machine.environment machine.terminalColumns none switches).result =
          .ok settings ∧
        ProcessTable.capture machine = .ok table ∧
        ((output (execute machine arguments)).count '\n' =
            (reported machine settings table).length ↔
          ∀ session ∈ reported machine settings table,
            '\n' ∉ Table.shownName session settings ∧
            '\n' ∉
              Table.shownCommand session (shownFor machine settings table session) settings) := by
  constructor
  · intro source session hsession later shown settings hertz now text hrow c hc
    have htty := SessionSource.printable_tty_of_mem_listing machine source session hsession
    exact Table.mem_row_iff htty hrow hc
  · intro arguments switches debugging hrequest hheader hstatus
    obtain ⟨settings, table, hsettings, htable, hrows⟩ := rows_of_report hrequest hheader hstatus
    refine ⟨settings, table, hsettings, htable, ?_⟩
    rw [output, count_newline_rows (fun session => printable_tty_of_mem_reported) hrows,
      Nat.add_eq_left, List.sum_eq_zero_iff_forall_eq_nat, List.forall_mem_map]
    refine forall₂_congr fun session _ => ?_
    rw [foreignFeeds, Nat.add_eq_zero_iff, List.count_eq_zero, List.count_eq_zero]

theorem clean_iff_of_plain_arguments :
    Table.row Machine.withPlainLogin LoginSession.recorded
        (shownFor Machine.withPlainLogin {} (.ofLogin ['l', 's', ' ', '-', 'a'])
          LoginSession.recorded) {} 100 .zero =
      .ok "u        1        -                00:01    0.00s  0.00s  0.07s ls -a".toList ∧
    ('\n' ∈ "u        1        -                00:01    0.00s  0.00s  0.07s ls -a".toList ↔
      '\n' ∈ Table.shownName LoginSession.recorded {} ∨
        '\n' ∈ Table.shownCommand LoginSession.recorded
          (shownFor Machine.withPlainLogin {} (.ofLogin ['l', 's', ' ', '-', 'a'])
            LoginSession.recorded) {}) ∧
    (execute Machine.withPlainLogin [['-', 'h']]).status = 0 ∧
    ∃ settings table,
      (Settings.read Machine.withPlainLogin.environment none none
        { header := false }).result = .ok settings ∧
      ProcessTable.capture Machine.withPlainLogin = .ok table ∧
      ((output (execute Machine.withPlainLogin [['-', 'h']])).count '\n' =
          (reported Machine.withPlainLogin settings table).length ↔
        ∀ session ∈ reported Machine.withPlainLogin settings table,
          '\n' ∉ Table.shownName session settings ∧
          '\n' ∉ Table.shownCommand session
            (shownFor Machine.withPlainLogin settings table session) settings) := by
  have hsession : LoginSession.recorded ∈
      ((SessionSource.ofMachine Machine.withPlainLogin).listing
        Machine.withPlainLogin).sessions := by decide +kernel
  have hrow : Table.row Machine.withPlainLogin LoginSession.recorded
        (shownFor Machine.withPlainLogin {} (.ofLogin ['l', 's', ' ', '-', 'a'])
          LoginSession.recorded) {} 100 .zero =
      .ok "u        1        -                00:01    0.00s  0.00s  0.07s ls -a".toList := by
    decide +kernel
  have hstatus : (execute Machine.withPlainLogin [['-', 'h']]).status = 0 := by decide +kernel
  obtain ⟨hrows, hruns⟩ := clean_iff Machine.withPlainLogin
  refine ⟨hrow, ?_, hstatus, ?_⟩
  · exact hrows _ _ hsession _ _ _ _ _ _ hrow '\n' (by decide)
  · exact hruns [['-', 'h']] { header := false } false rfl rfl hstatus

/-- One session is reported on two lines, since its process has a line feed in an argument. -/
theorem line_split_by_argument :
    ((SessionSource.ofMachine Machine.withSplitLogin).listing Machine.withSplitLogin).sessions =
        [LoginSession.recorded] ∧
      ProcessTable.capture Machine.withSplitLogin = .ok (.ofLogin ['a', '\n', 'b']) ∧
      Table.row Machine.withSplitLogin LoginSession.recorded
          (Activity.ofSession Machine.withSplitLogin LoginSession.recorded
            (ProcessTable.ofLogin ['a', '\n', 'b']).records true) {} 100 .zero =
        .ok "u        1        -                00:01    0.00s  0.00s  0.07s a\nb".toList ∧
      (execute Machine.withSplitLogin [['-', 'h']]).status = 0 ∧
      output (execute Machine.withSplitLogin [['-', 'h']]) =
        "u        1        -                00:01    0.00s  0.00s  0.07s a\nb\n".toList := by
  refine ⟨?_, ?_, ?_, ?_, ?_⟩
  all_goals decide +kernel

end CommandLine

end LoginReport
