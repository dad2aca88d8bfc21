import LoginReport.Proofs.Printout.Atomic
import LoginReport.Proofs.Printout.WellFormed

set_option autoImplicit false

/-!
# Failing sources are contained

On a well-formed machine a report ends well or is ended by a source, which is told: whichever source
fails, its fault is made one of the report's own, or something stands in for what it does not tell.
The load average alone is not looked after, and its fault escapes.
-/

namespace LoginReport

/-- The command ends well, or a source ends it and the reason is told. -/
def CommandLine.Outcome.IsContained (outcome : Outcome) : Prop :=
  outcome.escaped = none ∧ (outcome.status = 0 ∨
    (outcome.status = 1 ∧ ∃ cause : SourceFault, .ended cause.message ∈ outcome.notices))

namespace CommandLine

variable {machine : Machine} {debugging : Bool} {settings : Settings} {switches : Switches}

theorem isContained_outcome {run : Run Unit} (h : FaultsAre Fault.IsOfSource run.result) :
    (outcome run debugging).IsContained := by
  unfold outcome
  cases hresult : run.result with
  | ok value => exact ⟨rfl, Or.inl rfl⟩
  | error fault =>
    have hsource := h fault hresult
    cases fault with
    | source cause =>
      refine ⟨rfl, Or.inr ⟨rfl, cause, List.mem_filter.mpr ⟨?_, ?_⟩⟩⟩
      · exact List.mem_append_right _ List.mem_cons_self
      · cases debugging <;> rfl
    | _ => cases hsource

theorem outcome_of_value {run : Run Unit} {fault : Fault} (h : run.result = .error fault)
    (hvalue : fault.IsOfValue) :
    outcome run debugging = ⟨1, run.lines, Notice.kept debugging run.notices,
      if isBrokenPipe fault then none else some fault⟩ := by
  unfold outcome
  rw [h]
  cases fault with
  | source cause => cases hvalue
  | _ => rfl

/-- No reason is told for a fault of a value: all other notices are of no error. -/
theorem not_isContained_outcome {run : Run Unit} {fault : Fault} (hquiet : Quiet run.notices)
    (h : run.result = .error fault) (hvalue : fault.IsOfValue) :
    ¬(outcome run debugging).IsContained := by
  rw [outcome_of_value h hvalue]
  rintro ⟨-, hstatus | ⟨-, cause, hended⟩⟩
  · cases hstatus
  · have herror := hquiet _ (List.mem_filter.mp hended).1
    cases herror

/-! ## The load average -/

theorem printHeader_of_load {fault : LoadFault} {seconds : Binary64}
    (hheader : settings.header = true)
    (hseconds : Uptime.seconds machine settings.container = .ok seconds)
    (hload : machine.loadAverage = .error fault) :
    (Printout.printHeader machine settings).Fails [] (.load fault) := by
  have huptime : Printout.uptime machine settings = .error (.load fault) := by
    refine (bind_eq_error _ _ _).mpr (Or.inr ⟨seconds, hseconds, ?_⟩)
    exact bind_mapError_error hload _ _
  unfold Printout.printHeader
  rw [if_pos hheader]
  exact Run.fails_bind.mpr (Or.inl (Run.fails_ofExcept.mpr ⟨huptime, rfl⟩))

theorem print_of_load {fault : LoadFault} (hasks : machine.AsksLoad settings)
    (hload : machine.loadAverage = .error fault) :
    (Printout.print machine settings).Fails [] (.load fault) := by
  obtain ⟨hheader, ⟨table, htable⟩, seconds, hseconds⟩ := hasks
  refine Run.fails_bind.mpr (Or.inr ⟨table, [], [], Run.ends_ofExcept.mpr ⟨htable, rfl⟩, ?_, rfl⟩)
  exact Run.fails_bind.mpr (Or.inl (printHeader_of_load hheader hseconds hload))

theorem report_of_load {fault : LoadFault}
    (hread : (Settings.read machine.environment machine.terminalColumns none switches).result =
      .ok settings)
    (hasks : machine.AsksLoad settings) (hload : machine.loadAverage = .error fault) :
    (report machine switches).Fails [] (.load fault) := by
  have hends : (Settings.read machine.environment machine.terminalColumns none switches).Ends []
      settings := ⟨hread, (read_ends ⟨hread, rfl⟩).1⟩
  exact Run.fails_bind.mpr (Or.inr ⟨settings, [], [], hends, print_of_load hasks hload, rfl⟩)

theorem report_faults (h : machine.IsWellFormed)
    (hread : (Settings.read machine.environment machine.terminalColumns none switches).result =
      .ok settings)
    (hload : machine.AsksLoad settings → ∃ average, machine.loadAverage = .ok average) :
    FaultsAre Fault.IsOfSource (report machine switches).result := by
  refine FaultsAre.run_bind (FaultsAre.of_ok ⟨settings, hread⟩) fun other hother => ?_
  obtain rfl := Except.ok.inj (hread.symm.trans hother)
  exact h.print_faults (Settings.inBounds_of_read hread) hload

theorem report_of_unreadable {fault : Fault}
    (hread : (Settings.read machine.environment machine.terminalColumns none switches).result =
      .error fault) : (report machine switches).result = .error fault :=
  (Run.fails_bind.mpr (Or.inl ⟨hread, rfl⟩)).1

/-- On a well-formed machine, a report is contained exactly if its settings can be read and no load
average is missed. A load average that is missed ends the report before its first line, without a
word of the reason. -/
theorem contained_iff (machine : Machine) (h : machine.IsWellFormed) :
    (∀ arguments lines, request arguments = .tell lines →
      (execute machine arguments).IsContained) ∧
    ∀ arguments switches debugging, request arguments = .report switches debugging →
      ((execute machine arguments).IsContained ↔ ∃ settings,
        (Settings.read machine.environment machine.terminalColumns none switches).result =
          .ok settings ∧
        ∀ fault, machine.loadAverage = .error fault → ¬machine.AsksLoad settings) ∧
      ∀ settings fault,
        (Settings.read machine.environment machine.terminalColumns none switches).result =
          .ok settings →
        machine.AsksLoad settings → machine.loadAverage = .error fault →
        (execute machine arguments).status = 1 ∧ (execute machine arguments).lines = [] ∧
        (execute machine arguments).escaped =
          (if fault.number? = some 32 then none else some (.load fault)) ∧
        Quiet (execute machine arguments).notices := by
  constructor
  · intro arguments lines hrequest
    rw [execute, hrequest]
    exact ⟨rfl, Or.inl rfl⟩
  intro arguments switches debugging hrequest
  have hexecute : execute machine arguments = outcome (report machine switches) debugging := by
    rw [execute, hrequest]
  have hquiet := quiet_report machine switches
  rw [hexecute]
  refine ⟨⟨?_, ?_⟩, ?_⟩
  · intro hcontained
    cases hread :
      (Settings.read machine.environment machine.terminalColumns none switches).result with
    | error fault =>
      have hvalue := Settings.read_faults _ _ _ fault hread
      exact absurd hcontained (not_isContained_outcome hquiet (report_of_unreadable hread) hvalue)
    | ok settings =>
      refine ⟨settings, rfl, fun fault hload hasks => ?_⟩
      have hresult := (report_of_load hread hasks hload).1
      exact not_isContained_outcome hquiet hresult rfl hcontained
  · rintro ⟨settings, hread, hload⟩
    refine isContained_outcome (report_faults h hread fun hasks => ?_)
    cases haverage : machine.loadAverage with
    | ok average => exact ⟨average, rfl⟩
    | error fault => exact absurd hasks (hload fault haverage)
  · intro settings fault hread hasks hload
    obtain ⟨hresult, hlines⟩ := report_of_load hread hasks hload
    rw [outcome_of_value hresult rfl]
    refine ⟨rfl, hlines, ?_, ?_⟩
    · simp only [isBrokenPipe, beq_iff_eq]
    · exact fun notice hnotice => hquiet notice (List.mem_filter.mp hnotice).1

end CommandLine

/-! ## A machine without a load average -/

def Machine.withLoad (machine : Machine) (load : Except LoadFault LoadAverage) : Machine :=
  { machine with loadAverage := load }

theorem Stat.path_ne_defaultPath (pid : Int) : path pid ≠ RecordFile.defaultPath := by
  intro h
  have hstart := congrArg (List.take 2) h
  change ['/', 'p'] = ['/', 'v'] at hstart
  revert hstart
  decide

theorem wellFormed_of_withLogin {arguments : List Text} {pid : Int} {line : Bytes}
    (h : (Machine.withLogin arguments).contents (Stat.path pid) = .ok line) :
    Stat.WellFormed line := by
  simp only [Machine.withLogin, Machine.withFiles, List.lookup_cons, List.lookup_nil,
    beq_false_of_ne (Stat.path_ne_defaultPath pid)] at h
  split at h
  · rename_i hfile
    obtain rfl := Except.ok.inj h
    split at hfile
    · obtain rfl := Option.some.inj hfile
      exact Stat.wellFormed_iff.mpr ⟨⟨['s', 'h'], 5, 0, 5, 7, 0, 90⟩, by decide +kernel⟩
    · cases hfile
  · cases h

theorem isTime_withPlainLogin :
    Machine.withPlainLogin.IsTime .zero ∧
      Machine.withPlainLogin.IsTime LoginSession.recorded.startTime :=
  ⟨⟨LocalTime.ofSeconds 0, by decide +kernel, by decide +kernel⟩,
    ⟨LocalTime.ofSeconds 60, by decide +kernel, by decide +kernel⟩⟩

theorem sessions_withPlainLogin :
    ((SessionSource.ofMachine Machine.withPlainLogin).listing Machine.withPlainLogin).sessions =
      [LoginSession.recorded] := by decide +kernel

theorem isWellFormed_withPlainLogin (load : Except LoadFault LoadAverage) :
    (Machine.withPlainLogin.withLoad load).IsWellFormed where
  rate := fun n hn => by cases hn
  lines := fun pid line hline =>
    wellFormed_of_withLogin (show Machine.withPlainLogin.contents _ = .ok line from hline)
  registry := fun program hsource => by cases hsource
  now := isTime_withPlainLogin.1
  boot := fun boot hboot => by
    obtain rfl := Except.ok.inj hboot
    exact isTime_withPlainLogin.1.isSeconds
  started := fun stat hstat => by cases hstat
  accessed := fun path device hdevice => by cases hdevice
  logins := fun session hsession => by
    change session ∈ ((SessionSource.ofMachine Machine.withPlainLogin).listing
      Machine.withPlainLogin).sessions at hsession
    rw [sessions_withPlainLogin, List.mem_singleton] at hsession
    rw [hsession]
    exact isTime_withPlainLogin.2

/-- The load average cannot be read. -/
def Machine.withoutLoad : Machine := Machine.withPlainLogin.withLoad (.error (.refused ⟨5, none⟩))

theorem asksLoad_withoutLoad : Machine.withoutLoad.AsksLoad (Settings.ofSwitches {} 8 16 512) where
  header := rfl
  table := ⟨ProcessTable.ofLogin ['l', 's', ' ', '-', 'a'], by decide +kernel⟩
  uptime := ⟨.zero, by decide +kernel⟩

namespace CommandLine

/-- Without a header no load average is missed. -/
theorem contained_without_header :
    Machine.withoutLoad.IsWellFormed ∧
    (execute Machine.withoutLoad [['-', 'V']]).IsContained ∧
    (execute Machine.withoutLoad [['-', 'h']]).IsContained ∧
    ¬(execute Machine.withoutLoad []).IsContained ∧
    (execute Machine.withoutLoad []).escaped = some (.load (.refused ⟨5, none⟩)) := by
  have hformed : Machine.withoutLoad.IsWellFormed := isWellFormed_withPlainLogin _
  have hread : ∀ switches, (Settings.read Machine.withoutLoad.environment
      Machine.withoutLoad.terminalColumns none switches).result =
        .ok (Settings.ofSwitches switches 8 16 512) := fun _ => rfl
  obtain ⟨htell, hreport⟩ := contained_iff Machine.withoutLoad hformed
  obtain ⟨hbare, -⟩ := hreport [['-', 'h']] { header := false } false rfl
  obtain ⟨hfull, hmissed⟩ := hreport [] {} false rfl
  refine ⟨hformed, htell _ versionText rfl, ?_, ?_, ?_⟩
  · refine hbare.mpr ⟨_, hread _, fun fault _ hasks => ?_⟩
    cases hasks.header
  · intro hcontained
    obtain ⟨settings, hsettings, hnone⟩ := hfull.mp hcontained
    obtain rfl := Except.ok.inj ((hread {}).symm.trans hsettings)
    exact hnone _ rfl asksLoad_withoutLoad
  · exact (hmissed _ (.refused ⟨5, none⟩) (hread {}) asksLoad_withoutLoad rfl).2.2.1

/-- With a load average the login is reported. Without one the command says nothing at all. -/
theorem login_lost_without_load :
    Machine.withoutLoad.IsWellFormed ∧
    (execute (Machine.withoutLoad.withLoad (.ok ⟨.zero, .zero, .zero⟩)) []).lines.length = 3 ∧
    execute Machine.withoutLoad [] = ⟨1, [], [], some (.load (.refused ⟨5, none⟩))⟩ ∧
    ¬(execute Machine.withoutLoad []).IsContained := by
  have hexecute : execute Machine.withoutLoad [] =
      ⟨1, [], [], some (.load (.refused ⟨5, none⟩))⟩ := by
    decide +kernel
  refine ⟨isWellFormed_withPlainLogin _, by decide +kernel, hexecute, ?_⟩
  rw [hexecute]
  rintro ⟨hescaped, -⟩
  cases hescaped

end CommandLine

end LoginReport
