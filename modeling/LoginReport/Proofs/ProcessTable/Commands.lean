import LoginReport.Proofs.ProcessTable.Malformed

set_option autoImplicit false

/-!
# Command lines

A record shows the command line of its process, or the name in brackets where that line is empty.
The line of a single empty argument is the exception: it is shown as it is, and so the command is
blank.
-/

namespace LoginReport

theorem Text.join_eq_nil_iff {separator : Text} (h : separator ≠ []) (parts : List Text) :
    join separator parts = [] ↔ parts = [] ∨ parts = [[]] := by
  cases parts with
  | nil => simp [join]
  | cons first rest =>
    cases rest with
    | nil => simp [join]
    | cons second rest => simp [join, h]

namespace ProcessTable

/-- The arguments with blanks between them, and nothing where there are none. -/
def commandLine (info : ProcessInfo) : Text := Text.join [' '] (info.arguments.getD [])

/-- The name of the process list, or else of the status line. -/
def bracketed (info : ProcessInfo) (stat : Stat) : Text :=
  '[' :: (info.name.filter (· ≠ [])).getD stat.name ++ [']']

/-- What tells the process to a reader. -/
def telling (info : ProcessInfo) (stat : Stat) : Text :=
  (if commandLine info = [] then bracketed info stat else commandLine info).take 512

/-- The record is that of a process in the list. -/
structure IsCaptured (machine : Machine) (info : ProcessInfo) (stat : Stat)
    (record : ProcessRecord) : Prop where
  listed : .ok info ∈ machine.processes
  shown : IsShown machine info stat
  owned : ∃ owners, IsOwnedBy info owners ∧ IsRecordOf info stat owners record

variable {machine : Machine} {info : ProcessInfo} {stat : Stat} {record : ProcessRecord}
variable {table : ProcessTable}

/-! ## The records of a table -/

/-- A capture that succeeds has seen the whole list. -/
theorem exists_seen_of_capture (h : capture machine = .ok table) :
    ∃ infos outcomes, List.Forall₂ (Seen machine) infos outcomes ∧
      machine.processes = infos.map .ok ∧ table.records = outcomes.reduceOption := by
  cases hprocesses : machine.hasProcessTable with
  | false =>
    rw [capture_of_no_table hprocesses] at h
    cases h
  | true =>
    rcases seen_or_reaches machine with ⟨infos, outcomes, hseen, hlist⟩ |
      ⟨item, fault, hreaches, hstops⟩
    · rw [capture_of_seen hprocesses hseen hlist] at h
      obtain rfl := Except.ok.inj h
      exact ⟨infos, outcomes, hseen, hlist, rfl⟩
    · rw [capture_of_reaches hprocesses hreaches hstops] at h
      cases h

theorem mem_reduceOption_iff {infos : List ProcessInfo} {outcomes : List (Option ProcessRecord)}
    (h : List.Forall₂ (Seen machine) infos outcomes) :
    record ∈ outcomes.reduceOption ↔ ∃ info ∈ infos, Seen machine info (some record) := by
  induction h with
  | nil => simp
  | @cons info outcome infos outcomes hseen _ ih =>
    have hfirst : Seen machine info (some record) ↔ outcome = some record := by
      constructor
      · intro hrecord
        exact Except.ok.inj (hseen.recordOf_eq.symm.trans hrecord.recordOf_eq)
      · rintro rfl
        exact hseen
    rw [List.exists_mem_cons_iff, hfirst, ← ih]
    cases outcome <;> simp [eq_comm]

theorem seen_some_iff : Seen machine info (some record) ↔
    ∃ stat owners, IsShown machine info stat ∧ IsOwnedBy info owners ∧
      IsRecordOf info stat owners record := by
  constructor
  · intro h
    cases h with
    | captured hstat howners hrecord => exact ⟨_, _, hstat, howners, hrecord⟩
  · rintro ⟨stat, owners, hstat, howners, hrecord⟩
    exact .captured hstat howners hrecord

theorem mem_records_iff (h : capture machine = .ok table) :
    record ∈ table.records ↔ ∃ info stat, IsCaptured machine info stat record := by
  obtain ⟨infos, outcomes, hseen, hlist, hrecords⟩ := exists_seen_of_capture h
  have hlisted : ∀ info, .ok info ∈ machine.processes ↔ info ∈ infos := by
    intro info
    simp [hlist]
  rw [hrecords, mem_reduceOption_iff hseen]
  constructor
  · rintro ⟨info, hmem, hsome⟩
    obtain ⟨stat, owners, hstat, howners, hrecord⟩ := seen_some_iff.mp hsome
    exact ⟨info, stat, (hlisted info).mpr hmem, hstat, owners, howners, hrecord⟩
  · rintro ⟨info, stat, hmem, hstat, owners, howners, hrecord⟩
    exact ⟨info, (hlisted info).mp hmem, seen_some_iff.mpr ⟨stat, owners, hstat, howners, hrecord⟩⟩

/-! ## The command of a record -/

theorem commandLine_eq_nil_iff : commandLine info = [] ↔
    (∀ arguments, info.arguments = some arguments → arguments = []) ∨
      info.arguments = some [[]] := by
  rw [commandLine, Text.join_eq_nil_iff (by simp)]
  cases info.arguments <;> simp

theorem IsRecordOf.command_eq {owners : Owners} (h : IsRecordOf info stat owners record) :
    record.command = if info.arguments = some [[]] then [] else telling info stat := by
  by_cases hempty : ∀ arguments, info.arguments = some arguments → arguments = []
  · have hsingle : info.arguments ≠ some [[]] := fun hsome => by simpa using hempty _ hsome
    rw [h.bracketed hempty, if_neg hsingle, telling,
      if_pos (commandLine_eq_nil_iff.mpr (Or.inl hempty))]
    rfl
  · push Not at hempty
    obtain ⟨arguments, harguments, hne⟩ := hempty
    have hline : commandLine info = Text.join [' '] arguments := by
      rw [commandLine, harguments]
      rfl
    rw [h.joined arguments hne harguments, ← hline]
    by_cases hsingle : info.arguments = some [[]]
    · rw [if_pos hsingle, commandLine_eq_nil_iff.mpr (Or.inr hsingle)]
      rfl
    · have hsome : commandLine info ≠ [] := by
        rw [Ne, commandLine_eq_nil_iff, not_or]
        exact ⟨fun hnone => hne (hnone arguments harguments), hsingle⟩
      rw [if_neg hsingle, telling, if_neg hsome]

theorem length_telling (info : ProcessInfo) (stat : Stat) :
    1 ≤ (telling info stat).length ∧ (telling info stat).length ≤ 512 := by
  unfold telling
  rw [List.length_take]
  split
  · simp only [bracketed, List.length_append, List.length_cons, List.length_nil]
    omega
  · rename_i hline
    have := List.length_pos_iff.mpr hline
    omega

theorem IsRecordOf.length_command_iff {owners : Owners}
    (h : IsRecordOf info stat owners record) :
    1 ≤ record.command.length ∧ record.command.length ≤ 512 ↔ info.arguments ≠ some [[]] := by
  have htelling := length_telling info stat
  rw [h.command_eq]
  split <;> simp [*]

/-- Every command of a table has one to 512 characters exactly when no process in it was started
with a single empty argument. Such a process has a blank command, and every other shows its command
line or, where that is empty, its name in brackets. -/
theorem commands_told_iff (machine : Machine) (table : ProcessTable)
    (h : capture machine = .ok table) :
    ((∀ record ∈ table.records, 1 ≤ record.command.length ∧ record.command.length ≤ 512) ↔
        ∀ info stat record, IsCaptured machine info stat record → info.arguments ≠ some [[]]) ∧
      ∀ record ∈ table.records, ∃ info stat, IsCaptured machine info stat record ∧
        (info.arguments ≠ some [[]] → record.command = telling info stat) ∧
        (info.arguments = some [[]] → record.command = []) := by
  refine ⟨⟨?_, ?_⟩, ?_⟩
  · intro hlengths info stat record hcaptured
    obtain ⟨owners, -, hrecord⟩ := hcaptured.owned
    have hmem := (mem_records_iff h).mpr ⟨info, stat, hcaptured⟩
    exact hrecord.length_command_iff.mp (hlengths record hmem)
  · intro harguments record hmem
    obtain ⟨info, stat, hcaptured⟩ := (mem_records_iff h).mp hmem
    obtain ⟨owners, -, hrecord⟩ := hcaptured.owned
    exact hrecord.length_command_iff.mpr (harguments info stat record hcaptured)
  · intro record hmem
    obtain ⟨info, stat, hcaptured⟩ := (mem_records_iff h).mp hmem
    obtain ⟨owners, -, hrecord⟩ := hcaptured.owned
    refine ⟨info, stat, hcaptured, fun hne => ?_, fun hsingle => ?_⟩
    · rw [hrecord.command_eq, if_neg hne]
    · rw [hrecord.command_eq, if_pos hsingle]

/-! ## Empty arguments -/

/-- A process that was started with these arguments. -/
def started (arguments : List Text) : ProcessInfo :=
  { unowned 7 (.ok ⟨1, 2⟩) with arguments := some arguments }

/-- There is no other process on the machine. -/
def startedWith (arguments : List Text) : Machine :=
  { Machine.bare.withFiles [(Stat.path 7, shellLine)] with processes := [.ok (started arguments)] }

/-- A process that was started with two empty arguments shows the blank between them. -/
theorem commands_told_of_two_empty :
    capture (startedWith [[], []]) = .ok ⟨[⟨7, 7, 2, 1, 1025, 7, 7, 11, 99, [' ']⟩], 100⟩ ∧
      ∀ info stat record, IsCaptured (startedWith [[], []]) info stat record →
        info.arguments ≠ some [[]] := by
  have hcapture : capture (startedWith [[], []]) =
      .ok ⟨[⟨7, 7, 2, 1, 1025, 7, 7, 11, 99, [' ']⟩], 100⟩ := by decide +kernel
  exact ⟨hcapture, (commands_told_iff _ _ hcapture).1.mp (by decide)⟩

/-- A process that was started with one empty argument has a blank command, although it has a
name. -/
theorem blank_command_of_empty_argument : ∃ stat record,
    capture (startedWith [[]]) = .ok ⟨[record], 100⟩ ∧
      IsCaptured (startedWith [[]]) (started [[]]) stat record ∧
      record.command = [] ∧ telling (started [[]]) stat = "[a) b]".toList := by
  have hshown : IsShown (startedWith [[]]) (started [[]])
      ⟨"a) b".toList, 7, 1025, 7, 5, 6, 99⟩ :=
    ⟨shellLine, rfl, Stat.ofLine_eq_ok_iff.mp (by decide +kernel)⟩
  refine ⟨_, record (started [[]]) ⟨"a) b".toList, 7, 1025, 7, 5, 6, 99⟩ ⟨1, 2⟩, ?_,
    ⟨List.mem_singleton_self _, hshown, ⟨1, 2⟩, Or.inr ⟨rfl, rfl⟩, record_isRecordOf _ _⟩, rfl, ?_⟩
  · decide +kernel
  · decide

end ProcessTable

end LoginReport
