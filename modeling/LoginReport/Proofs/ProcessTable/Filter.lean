import Mathlib.Data.List.ReduceOption
import LoginReport.ProcessTable.Capture
import LoginReport.Proofs.Machine
import LoginReport.Proofs.ProcessTable.StatLine

set_option autoImplicit false

/-!
# The process table as a filter

The table follows the process list: one record for every process that can be read, none for one
that is gone or closed to us. It fails where the list does, or at the first refusal of another kind.
-/

namespace LoginReport

namespace ProcessTable

/-- Not permitted, nothing there, no such process, permission denied. -/
def passingNumbers : List Int := [1, 2, 3, 13]

def IsOwnedBy (info : ProcessInfo) (owners : Owners) : Prop :=
  info.owners = some owners ∨ info.owners = none ∧ info.askOwners = .ok owners

/-- What a record takes from the list's entry, the status line and the owners of one process. -/
structure IsRecordOf (info : ProcessInfo) (stat : Stat) (owners : Owners)
    (record : ProcessRecord) : Prop where
  pid : record.pid = info.pid
  leader : record.leader = info.pid
  effective : record.effective = owners.effective
  real : record.real = owners.real
  terminal : record.terminal = stat.terminal
  group : record.group = stat.group
  foreground : record.foreground = stat.foreground
  ticks : record.ticks = stat.userTicks + stat.systemTicks
  startTime : record.startTime = stat.startTicks
  joined : ∀ arguments, arguments ≠ [] → info.arguments = some arguments →
    record.command = (Text.join [' '] arguments).take 512
  bracketed : (∀ arguments, info.arguments = some arguments → arguments = []) →
    record.command = ('[' :: (info.name.filter (· ≠ [])).getD stat.name ++ [']']).take 512

variable (machine : Machine)

/-- The process has a status line, and this is what it tells. -/
def IsShown (info : ProcessInfo) (stat : Stat) : Prop :=
  ∃ line, machine.contents (Stat.path info.pid) = .ok line ∧ Stat.ShownBy line stat

/-- What becomes of a process that does not end the capture. -/
inductive Seen (info : ProcessInfo) : Option ProcessRecord → Prop where
  | captured {stat : Stat} {owners : Owners} {record : ProcessRecord}
      (hstat : IsShown machine info stat) (howners : IsOwnedBy info owners)
      (hrecord : IsRecordOf info stat owners record) : Seen info (some record)
  | closed {fault : SystemFault} (hline : machine.contents (Stat.path info.pid) = .error fault)
      (hnumber : fault.number ∈ passingNumbers) : Seen info none
  | gone {stat : Stat} (hstat : IsShown machine info stat) (hlisted : info.owners = none)
      (hasked : info.askOwners = .error .gone) : Seen info none
  | denied {stat : Stat} {fault : SystemFault} (hstat : IsShown machine info stat)
      (hlisted : info.owners = none) (hasked : info.askOwners = .error (.refused fault))
      (hnumber : fault.number ∈ passingNumbers) : Seen info none

/-- The refusal that ends the capture at an item of the process list. -/
inductive Ends : Except SystemFault ProcessInfo → SystemFault → Prop where
  | list (fault : SystemFault) : Ends (.error fault) fault
  | line {info : ProcessInfo} {fault : SystemFault}
      (hline : machine.contents (Stat.path info.pid) = .error fault)
      (hnumber : fault.number ∉ passingNumbers) : Ends (.ok info) fault
  | owners {info : ProcessInfo} {stat : Stat} {fault : SystemFault}
      (hstat : IsShown machine info stat) (hlisted : info.owners = none)
      (hasked : info.askOwners = .error (.refused fault))
      (hnumber : fault.number ∉ passingNumbers) : Ends (.ok info) fault

variable {machine} {info : ProcessInfo}

theorem passing_of_mem {fault : SystemFault} (h : fault.number ∈ passingNumbers) :
    passing fault = .ok none := by
  apply if_pos
  simpa [SystemFault.isPassing, passingNumbers, or_assoc] using h

theorem passing_of_not_mem {fault : SystemFault} (h : fault.number ∉ passingNumbers) :
    passing fault = .error (.source (.processTable fault)) := by
  apply if_neg
  simpa [SystemFault.isPassing, passingNumbers, and_assoc] using h

theorem owners_eq_ok_iff {owned : Owners} : owners info = .ok owned ↔ IsOwnedBy info owned := by
  unfold owners IsOwnedBy
  cases info.owners <;> simp

theorem owners_of_unlisted (h : info.owners = none) : owners info = info.askOwners := by
  rw [owners, h]

theorem name_eq (stat : Stat) :
    name info stat = (info.name.filter (· ≠ [])).getD stat.name := by
  unfold name
  cases info.name with
  | none => rfl
  | some listed => cases listed <;> simp [Option.filter]

theorem command_of_ne_nil {arguments : List Text} (h : arguments ≠ []) (name : Text) :
    command (some arguments) name = (Text.join [' '] arguments).take 512 := by
  cases arguments with
  | nil => exact absurd rfl h
  | cons first rest => rfl

theorem command_of_empty {given : Option (List Text)}
    (h : ∀ arguments, given = some arguments → arguments = []) (name : Text) :
    command given name = ('[' :: name ++ [']']).take 512 := by
  cases given with
  | none => rfl
  | some arguments =>
    rw [h arguments rfl]
    rfl

theorem record_isRecordOf (stat : Stat) (owners : Owners) :
    IsRecordOf info stat owners (record info stat owners) := by
  constructor
  case joined =>
    intro arguments hne harguments
    rw [← command_of_ne_nil hne (name info stat), ← harguments]
    rfl
  case bracketed =>
    intro hempty
    rw [← name_eq, ← command_of_empty hempty]
    rfl
  all_goals rfl

/-- Nothing else is a record of the process. -/
theorem IsRecordOf.eq_record {stat : Stat} {owners : Owners} {other : ProcessRecord}
    (h : IsRecordOf info stat owners other) : other = record info stat owners := by
  have hsame : IsRecordOf info stat owners (record info stat owners) :=
    record_isRecordOf stat owners
  have hcommand : other.command = (record info stat owners).command := by
    by_cases hempty : ∀ arguments, info.arguments = some arguments → arguments = []
    · rw [h.bracketed hempty, hsame.bracketed hempty]
    · push Not at hempty
      obtain ⟨arguments, harguments, hne⟩ := hempty
      rw [h.joined arguments hne harguments, hsame.joined arguments hne harguments]
  cases other
  cases h
  simp only at *
  subst_vars
  rfl

/-! ## One process -/

theorem recordOf_of_unreadable {fault : SystemFault}
    (h : machine.contents (Stat.path info.pid) = .error fault) :
    recordOf machine info = passing fault := by
  rw [recordOf, Stat.ofProcess, h]

theorem IsShown.ofProcess_eq {stat : Stat} (h : IsShown machine info stat) :
    Stat.ofProcess machine info.pid = .ok stat := by
  obtain ⟨line, hline, hstat⟩ := h
  rw [Stat.ofProcess, hline]
  exact Stat.ofLine_eq_ok_iff.mpr hstat

theorem recordOf_of_denied {stat : Stat} {fault : SystemFault} (hstat : IsShown machine info stat)
    (hlisted : info.owners = none) (hasked : info.askOwners = .error (.refused fault)) :
    recordOf machine info = passing fault := by
  rw [recordOf, hstat.ofProcess_eq]
  dsimp only
  rw [owners_of_unlisted hlisted, hasked]

theorem Seen.recordOf_eq {outcome : Option ProcessRecord} (h : Seen machine info outcome) :
    recordOf machine info = .ok outcome := by
  cases h with
  | captured hstat howners hrecord =>
    rw [recordOf, hstat.ofProcess_eq]
    dsimp only
    rw [owners_eq_ok_iff.mpr howners, hrecord.eq_record]
  | closed hline hnumber => rw [recordOf_of_unreadable hline, passing_of_mem hnumber]
  | gone hstat hlisted hasked =>
    rw [recordOf, hstat.ofProcess_eq]
    dsimp only
    rw [owners_of_unlisted hlisted, hasked]
  | denied hstat hlisted hasked hnumber =>
    rw [recordOf_of_denied hstat hlisted hasked, passing_of_mem hnumber]

theorem Ends.recordsOf_eq {item : Except SystemFault ProcessInfo} {fault : SystemFault}
    (h : Ends machine item fault) (rest : List (Except SystemFault ProcessInfo)) :
    recordsOf machine (item :: rest) = .error (.source (.processTable fault)) := by
  cases h with
  | list => rfl
  | line hline hnumber =>
    rw [recordsOf, recordOf_of_unreadable hline, passing_of_not_mem hnumber]
  | owners hstat hlisted hasked hnumber =>
    rw [recordsOf, recordOf_of_denied hstat hlisted hasked, passing_of_not_mem hnumber]

/-- By what the line and the owners gave. -/
theorem seen_or_ends
    (hline : ∀ line, machine.contents (Stat.path info.pid) = .ok line → Stat.WellFormed line) :
    (∃ outcome, Seen machine info outcome) ∨ ∃ fault, Ends machine (.ok info) fault := by
  cases hcontents : machine.contents (Stat.path info.pid) with
  | error fault =>
    by_cases hnumber : fault.number ∈ passingNumbers
    · exact Or.inl ⟨none, .closed hcontents hnumber⟩
    · exact Or.inr ⟨fault, .line hcontents hnumber⟩
  | ok line =>
    obtain ⟨stat, hofLine⟩ := Stat.wellFormed_iff.mp (hline line hcontents)
    have hstat : IsShown machine info stat :=
      ⟨line, hcontents, Stat.ofLine_eq_ok_iff.mp hofLine⟩
    cases hlisted : info.owners with
    | some owned =>
      exact Or.inl ⟨_, .captured hstat (Or.inl hlisted) (record_isRecordOf stat owned)⟩
    | none =>
      cases hasked : info.askOwners with
      | ok owned =>
        exact Or.inl
          ⟨_, .captured hstat (Or.inr ⟨hlisted, hasked⟩) (record_isRecordOf stat owned)⟩
      | error refusal =>
        cases refusal with
        | gone => exact Or.inl ⟨none, .gone hstat hlisted hasked⟩
        | refused fault =>
          by_cases hnumber : fault.number ∈ passingNumbers
          · exact Or.inl ⟨none, .denied hstat hlisted hasked hnumber⟩
          · exact Or.inr ⟨fault, .owners hstat hlisted hasked hnumber⟩

/-! ## The process list -/

variable {infos : List ProcessInfo} {outcomes : List (Option ProcessRecord)}

theorem recordsOf_append_of_seen (h : List.Forall₂ (Seen machine) infos outcomes)
    (rest : List (Except SystemFault ProcessInfo)) :
    recordsOf machine (infos.map .ok ++ rest) =
      (recordsOf machine rest).map (outcomes.reduceOption ++ ·) := by
  induction h with
  | nil => cases hrest : recordsOf machine rest <;> simp [hrest, Except.map]
  | @cons info outcome _ _ hseen _ ih =>
    rw [List.map_cons, List.cons_append, recordsOf, hseen.recordOf_eq]
    cases outcome with
    | none => rw [List.reduceOption_cons_of_none, ← ih]
    | some record =>
      dsimp only
      rw [ih, List.reduceOption_cons_of_some]
      cases recordsOf machine rest <;> rfl

/-- The list is seen to its end, or up to the first item that stops the capture. -/
theorem seen_to_end_or_stop (stops : Except SystemFault ProcessInfo → Prop)
    {processes : List (Except SystemFault ProcessInfo)} (hlist : ∀ fault, stops (.error fault))
    (hitems : ∀ info, .ok info ∈ processes →
      (∃ outcome, Seen machine info outcome) ∨ stops (.ok info)) :
    ∃ infos outcomes, List.Forall₂ (Seen machine) infos outcomes ∧
      (processes = infos.map .ok ∨
        ∃ item after, processes = infos.map .ok ++ item :: after ∧ stops item) := by
  -- What stands behind the first stop is never looked at, so the case split is on the first item.
  induction processes with
  | nil => exact ⟨[], [], .nil, Or.inl rfl⟩
  | cons item rest ih =>
    cases item with
    | error fault => exact ⟨[], [], .nil, Or.inr ⟨.error fault, rest, rfl, hlist fault⟩⟩
    | ok info =>
      rcases hitems info List.mem_cons_self with ⟨outcome, hseen⟩ | hstops
      · obtain ⟨infos, outcomes, hall, hsplit⟩ :=
          ih fun other hmem => hitems other (List.mem_cons_of_mem _ hmem)
        refine ⟨info :: infos, outcome :: outcomes, .cons hseen hall, ?_⟩
        rcases hsplit with rfl | ⟨item, after, rfl, hstops⟩
        · exact Or.inl rfl
        · exact Or.inr ⟨item, after, rfl, hstops⟩
      · exact ⟨[], [], .nil, Or.inr ⟨.ok info, rest, rfl, hstops⟩⟩

theorem seen_to_end_or_item {processes : List (Except SystemFault ProcessInfo)}
    (hlines : ∀ info line, .ok info ∈ processes →
      machine.contents (Stat.path info.pid) = .ok line → Stat.WellFormed line) :
    ∃ infos outcomes, List.Forall₂ (Seen machine) infos outcomes ∧
      (processes = infos.map .ok ∨
        ∃ item fault after, processes = infos.map .ok ++ item :: after ∧
          Ends machine item fault) := by
  obtain ⟨infos, outcomes, hall, hsplit⟩ :=
    seen_to_end_or_stop (fun item => ∃ fault, Ends machine item fault)
      (fun fault => ⟨fault, .list fault⟩) fun info hmem => seen_or_ends (hlines info · hmem)
  refine ⟨infos, outcomes, hall, hsplit.imp_right ?_⟩
  rintro ⟨item, after, hprocesses, fault, hends⟩
  exact ⟨item, fault, after, hprocesses, hends⟩

theorem capture_of_seen (hprocesses : machine.hasProcessTable = true)
    (hseen : List.Forall₂ (Seen machine) infos outcomes)
    (hlist : machine.processes = infos.map .ok) :
    capture machine = .ok ⟨outcomes.reduceOption, machine.hertz⟩ := by
  have hrecords := recordsOf_append_of_seen hseen []
  rw [List.append_nil] at hrecords
  rw [capture, if_pos hprocesses, hlist, hrecords]
  simp [recordsOf, Except.map]

theorem capture_of_ends {item : Except SystemFault ProcessInfo} {fault : SystemFault}
    {after : List (Except SystemFault ProcessInfo)}
    (hprocesses : machine.hasProcessTable = true)
    (hseen : List.Forall₂ (Seen machine) infos outcomes) (hends : Ends machine item fault)
    (hlist : machine.processes = infos.map .ok ++ item :: after) :
    capture machine = .error (.source (.processTable fault)) := by
  rw [capture, if_pos hprocesses, hlist, recordsOf_append_of_seen hseen, hends.recordsOf_eq]
  rfl

theorem Seen.not_ends {outcome : Option ProcessRecord} (h : Seen machine info outcome)
    (fault : SystemFault) : ¬Ends machine (.ok info) fault := by
  intro hends
  have hrecords := hends.recordsOf_eq []
  rw [recordsOf, h.recordOf_eq] at hrecords
  cases outcome <;> cases hrecords

theorem not_ends_of_seen (h : List.Forall₂ (Seen machine) infos outcomes) :
    ∀ item ∈ infos.map Except.ok, ∀ fault, ¬Ends machine item fault := by
  induction h with
  | nil => exact List.forall_mem_nil _
  | cons hseen _ ih =>
    rw [List.map_cons, List.forall_mem_cons]
    exact ⟨hseen.not_ends, ih⟩

/-- The table is a filter of the process list, and fails only at an item that ends the capture. -/
theorem capture_filters_processes (machine : Machine) (hprocesses : machine.hasProcessTable = true)
    (hlines : ∀ info line, .ok info ∈ machine.processes →
      machine.contents (Stat.path info.pid) = .ok line → Stat.WellFormed line) :
    ((∃ fault, capture machine = .error (.source (.processTable fault))) ↔
      ∃ item ∈ machine.processes, ∃ fault, Ends machine item fault) ∧
    ((∀ item ∈ machine.processes, ∀ fault, ¬Ends machine item fault) →
      ∃ infos outcomes, machine.processes = infos.map .ok ∧
        List.Forall₂ (Seen machine) infos outcomes ∧
        capture machine = .ok ⟨outcomes.reduceOption, machine.hertz⟩) := by
  obtain ⟨infos, outcomes, hseen, hlist | ⟨item, fault, after, hlist, hends⟩⟩ :=
    seen_to_end_or_item hlines
  · have hcapture := capture_of_seen hprocesses hseen hlist
    have hnone := not_ends_of_seen hseen
    rw [← hlist] at hnone
    refine ⟨⟨?_, ?_⟩, fun _ => ⟨infos, outcomes, hlist, hseen, hcapture⟩⟩
    · rintro ⟨fault, hfault⟩
      rw [hcapture] at hfault
      cases hfault
    · rintro ⟨item, hmem, fault, hends⟩
      exact absurd hends (hnone item hmem fault)
  · have hcapture := capture_of_ends hprocesses hseen hends hlist
    have hmem : item ∈ machine.processes := by simp [hlist]
    exact ⟨⟨fun _ => ⟨item, hmem, fault, hends⟩, fun _ => ⟨_, hcapture⟩⟩,
      fun hnone => absurd hends (hnone item hmem fault)⟩

/-! ## Three processes -/

/-- A process whose owners the list does not tell. -/
def unowned (pid : Int) (askOwners : Except OwnersFault Owners) : ProcessInfo where
  pid := pid
  name := some []
  owners := none
  arguments := none
  askOwners := askOwners

def shellLine : Bytes := Utf8.encode "7 (a) b) S 1 7 7 1025 7 0 0 0 0 0 5 6 0 0 20 0 1 0 99".toList

/-- The first process is there, the second is gone, and the third refuses to name its owners. -/
def threeProcesses (refusal : SystemFault) : Machine :=
  { Machine.bare.withFiles [(Stat.path 7, shellLine), (Stat.path 9, shellLine)] with
    processes := [.ok (unowned 7 (.ok ⟨1, 2⟩)), .ok (unowned 8 (.ok ⟨1, 2⟩)),
      .ok (unowned 9 (.error (.refused refusal)))] }

theorem wellFormed_shellLine : Stat.WellFormed shellLine :=
  Stat.wellFormed_iff.mpr ⟨⟨"a) b".toList, 7, 1025, 7, 5, 6, 99⟩, by decide +kernel⟩

theorem wellFormed_of_threeProcesses {refusal : SystemFault} {path : Text} {line : Bytes}
    (h : (threeProcesses refusal).contents path = .ok line) : Stat.WellFormed line := by
  have hline : line = shellLine := by
    simp only [threeProcesses, Machine.withFiles, List.lookup_cons, List.lookup_nil] at h
    split at h
    · rename_i hfile
      obtain rfl := Except.ok.inj h
      split at hfile
      · exact (Option.some.inj hfile).symm
      · split at hfile
        · exact (Option.some.inj hfile).symm
        · cases hfile
    · cases h
  rw [hline]
  exact wellFormed_shellLine

theorem capture_filters_three_processes :
    (threeProcesses ⟨13, none⟩).hasProcessTable = true ∧
      (∀ info line, .ok info ∈ (threeProcesses ⟨13, none⟩).processes →
        (threeProcesses ⟨13, none⟩).contents (Stat.path info.pid) = .ok line →
        Stat.WellFormed line) ∧
      (∀ item ∈ (threeProcesses ⟨13, none⟩).processes, ∀ fault,
        ¬Ends (threeProcesses ⟨13, none⟩) item fault) ∧
      (∃ infos outcomes, (threeProcesses ⟨13, none⟩).processes = infos.map .ok ∧
        List.Forall₂ (Seen (threeProcesses ⟨13, none⟩)) infos outcomes ∧
        capture (threeProcesses ⟨13, none⟩) = .ok ⟨outcomes.reduceOption, 100⟩) ∧
      capture (threeProcesses ⟨13, none⟩) =
        .ok ⟨[⟨7, 7, 2, 1, 1025, 7, 7, 11, 99, "[a) b]".toList⟩], 100⟩ ∧
      ∃ item ∈ (threeProcesses ⟨5, none⟩).processes, ∃ fault,
        Ends (threeProcesses ⟨5, none⟩) item fault := by
  have hdenied := capture_filters_processes (threeProcesses ⟨13, none⟩) rfl
    fun _ _ _ => wellFormed_of_threeProcesses
  have hfailed := capture_filters_processes (threeProcesses ⟨5, none⟩) rfl
    fun _ _ _ => wellFormed_of_threeProcesses
  have hcapture : capture (threeProcesses ⟨13, none⟩) =
      .ok ⟨[⟨7, 7, 2, 1, 1025, 7, 7, 11, 99, "[a) b]".toList⟩], 100⟩ := by decide +kernel
  have hnone : ∀ item ∈ (threeProcesses ⟨13, none⟩).processes, ∀ fault,
      ¬Ends (threeProcesses ⟨13, none⟩) item fault := by
    intro item hmem fault hends
    obtain ⟨cause, hcause⟩ := hdenied.1.mpr ⟨item, hmem, fault, hends⟩
    rw [hcapture] at hcause
    cases hcause
  exact ⟨rfl, fun _ _ _ => wellFormed_of_threeProcesses, hnone, hdenied.2 hnone, hcapture,
    hfailed.1.mp ⟨⟨5, none⟩, by decide +kernel⟩⟩

end ProcessTable

end LoginReport
