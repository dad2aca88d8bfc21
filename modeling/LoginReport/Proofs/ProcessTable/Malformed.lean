import LoginReport.Proofs.ProcessTable.Filter
import LoginReport.Uptime

set_option autoImplicit false

/-!
# Malformed status lines

A status line is refused for the first of its fields that is missing or no numeral. The uptime of a
container takes such a refusal for one of its own, but the capture passes it on as it is: one line
that cannot be read hides the whole process table.
-/

namespace LoginReport

namespace Stat

/-- The field cannot be read: the line ends before it, or it is no numeral. -/
inductive Lacks (line : Bytes) (place : Nat) : StatFault → Prop where
  | missing (h : (Text.runs Text.isBlankByte (fieldBytes line)).length ≤ place) :
      Lacks line place .missingField
  | numeral {numeral : Bytes} {fault : NumeralFault}
      (hfield : (Text.runs Text.isBlankByte (fieldBytes line))[place]? = some numeral)
      (hfault : Numeral.ofBytes numeral = .error fault) : Lacks line place (.numeral fault)

/-- The fields are read in the order of their places, and the first that cannot be read counts. -/
def RefusedFor (line : Bytes) (fault : StatFault) : Prop :=
  ∃ before place after, places = before ++ place :: after ∧
    (∀ earlier ∈ before, ∃ value, IsField line earlier value) ∧ Lacks line place fault

variable {line : Bytes} {fault : StatFault}

theorem field_eq_error_iff {place : Nat} :
    field (Text.runs Text.isBlankByte (fieldBytes line)) place = .error fault ↔
      Lacks line place fault := by
  constructor
  · intro h
    unfold field at h
    split at h
    · rename_i hnone
      obtain rfl := Except.error.inj h
      exact .missing (List.getElem?_eq_none_iff.mp hnone)
    · rename_i numeral hsome
      obtain ⟨cause, hcause, rfl⟩ := (mapError_eq_error _ _ _).mp h
      exact .numeral hsome hcause
  · intro h
    unfold field
    cases h with
    | missing h => rw [List.getElem?_eq_none_iff.mpr h]
    | numeral hfield hfault =>
      rw [hfield]
      exact (mapError_eq_error _ _ _).mpr ⟨_, hfault, rfl⟩

/-- Nothing but the six fields decides whether a line is refused. -/
theorem ofLine_eq_error_iff_mapM :
    ofLine line = .error fault ↔
      places.mapM (field (Text.runs Text.isBlankByte (fieldBytes line))) = .error fault := by
  simp only [ofLine, places, List.mapM_cons, List.mapM_nil, bind_eq_error, pure_ne_error, and_false,
    exists_false, or_false]

theorem ofLine_eq_error_iff : ofLine line = .error fault ↔ RefusedFor line fault := by
  rw [ofLine_eq_error_iff_mapM, mapM_eq_error]
  simp only [field_eq_ok_iff, field_eq_error_iff, RefusedFor]

theorem wellFormed_or_refusedFor (line : Bytes) :
    WellFormed line ∨ ∃ fault, RefusedFor line fault := by
  cases h : ofLine line with
  | ok stat => exact Or.inl (wellFormed_iff.mpr ⟨stat, h⟩)
  | error fault => exact Or.inr ⟨fault, ofLine_eq_error_iff.mp h⟩

theorem RefusedFor.not_wellFormed (h : RefusedFor line fault) : ¬WellFormed line := by
  intro hline
  obtain ⟨stat, hstat⟩ := wellFormed_iff.mp hline
  have hfault := ofLine_eq_error_iff.mpr h
  rw [hstat] at hfault
  cases hfault

theorem ofProcess_of_refused {machine : Machine} {pid : Int}
    (hline : machine.contents (path pid) = .ok line) (h : RefusedFor line fault) :
    ofProcess machine pid = .error fault := by
  rw [ofProcess, hline]
  exact ofLine_eq_error_iff.mpr h

/-- A line that was read is never refused as unreadable. -/
theorem RefusedFor.ne_unreadable (h : RefusedFor line fault) (cause : SystemFault) :
    fault ≠ .unreadable cause := by
  rintro rfl
  obtain ⟨before, place, after, -, -, hlacks⟩ := h
  cases hlacks

end Stat

namespace ProcessTable

/-- The documented ways in which there is no process table. -/
def IsTableFault (fault : Fault) : Prop :=
  fault = .source .noProcessTable ∨ ∃ cause, fault = .source (.processTable cause)

variable (machine : Machine)

/-- What stops the capture at an item of the process list, and the fault that comes of it. -/
inductive Stops : Except SystemFault ProcessInfo → Fault → Prop where
  | ends {item : Except SystemFault ProcessInfo} {fault : SystemFault}
      (hends : Ends machine item fault) : Stops item (.source (.processTable fault))
  | refused {info : ProcessInfo} {line : Bytes} {fault : StatFault}
      (hline : machine.contents (Stat.path info.pid) = .ok line)
      (hfault : Stat.RefusedFor line fault) : Stops (.ok info) (.stat fault)

/-- Nothing that comes before an item stops the capture. -/
def Reaches (item : Except SystemFault ProcessInfo) : Prop :=
  ∃ infos outcomes after, List.Forall₂ (Seen machine) infos outcomes ∧
    machine.processes = infos.map .ok ++ item :: after

variable {machine} {info : ProcessInfo}

theorem recordOf_of_refused {line : Bytes} {fault : StatFault}
    (hline : machine.contents (Stat.path info.pid) = .ok line)
    (h : Stat.RefusedFor line fault) : recordOf machine info = .error (.stat fault) := by
  rw [recordOf, Stat.ofProcess_of_refused hline h]
  cases fault with
  | unreadable cause => exact absurd rfl (h.ne_unreadable cause)
  | missingField => rfl
  | numeral cause => rfl

theorem Stops.recordsOf_eq {item : Except SystemFault ProcessInfo} {fault : Fault}
    (h : Stops machine item fault) (rest : List (Except SystemFault ProcessInfo)) :
    recordsOf machine (item :: rest) = .error fault := by
  cases h with
  | ends hends => exact hends.recordsOf_eq rest
  | refused hline hfault => rw [recordsOf, recordOf_of_refused hline hfault]

theorem seen_or_stops (machine : Machine) (info : ProcessInfo) :
    (∃ outcome, Seen machine info outcome) ∨ ∃ fault, Stops machine (.ok info) fault := by
  by_cases hlines :
      ∀ line, machine.contents (Stat.path info.pid) = .ok line → Stat.WellFormed line
  · rcases seen_or_ends hlines with hseen | ⟨fault, hends⟩
    · exact Or.inl hseen
    · exact Or.inr ⟨_, .ends hends⟩
  · push Not at hlines
    obtain ⟨line, hline, hmalformed⟩ := hlines
    obtain ⟨fault, hfault⟩ := (Stat.wellFormed_or_refusedFor line).resolve_left hmalformed
    exact Or.inr ⟨_, .refused hline hfault⟩

theorem capture_of_reaches (hprocesses : machine.hasProcessTable = true)
    {item : Except SystemFault ProcessInfo} {fault : Fault} (hreaches : Reaches machine item)
    (hstops : Stops machine item fault) : capture machine = .error fault := by
  obtain ⟨infos, outcomes, after, hseen, hlist⟩ := hreaches
  rw [capture, if_pos hprocesses, hlist, recordsOf_append_of_seen hseen, hstops.recordsOf_eq]
  rfl

/-- The whole list is seen, or something in it is reached that stops the capture. -/
theorem seen_or_reaches (machine : Machine) :
    (∃ infos outcomes, List.Forall₂ (Seen machine) infos outcomes ∧
      machine.processes = infos.map .ok) ∨
      ∃ item fault, Reaches machine item ∧ Stops machine item fault := by
  obtain ⟨infos, outcomes, hseen, hlist | ⟨item, after, hlist, fault, hstops⟩⟩ :=
    seen_to_end_or_stop (fun item => ∃ fault, Stops machine item fault)
      (fun cause => ⟨_, .ends (.list cause)⟩) fun info _ => seen_or_stops machine info
  · exact Or.inl ⟨infos, outcomes, hseen, hlist⟩
  · exact Or.inr ⟨item, fault, ⟨infos, outcomes, after, hseen, hlist⟩, hstops⟩

/-- The capture fails with what stops it first. -/
theorem capture_eq_error_iff (hprocesses : machine.hasProcessTable = true) {fault : Fault} :
    capture machine = .error fault ↔
      ∃ item, Reaches machine item ∧ Stops machine item fault := by
  constructor
  · intro h
    rcases seen_or_reaches machine with ⟨infos, outcomes, hseen, hlist⟩ |
      ⟨item, cause, hreaches, hstops⟩
    · rw [capture_of_seen hprocesses hseen hlist] at h
      cases h
    · have hcapture := capture_of_reaches hprocesses hreaches hstops
      obtain rfl := Except.error.inj (hcapture.symm.trans h)
      exact ⟨item, hreaches, hstops⟩
  · rintro ⟨item, hreaches, hstops⟩
    exact capture_of_reaches hprocesses hreaches hstops

theorem capture_of_no_table (hprocesses : machine.hasProcessTable = false) :
    capture machine = .error (.source .noProcessTable) := by
  rw [capture, hprocesses, if_neg (by simp)]

theorem capture_refused_iff {fault : StatFault} :
    capture machine = .error (.stat fault) ↔ machine.hasProcessTable = true ∧
      ∃ info line, Reaches machine (.ok info) ∧
        machine.contents (Stat.path info.pid) = .ok line ∧ Stat.RefusedFor line fault := by
  cases hprocesses : machine.hasProcessTable with
  | false => simp [capture_of_no_table hprocesses]
  | true =>
    rw [capture_eq_error_iff hprocesses]
    constructor
    · rintro ⟨item, hreaches, hstops⟩
      cases hstops with
      | refused hline hfault => exact ⟨rfl, _, _, hreaches, hline, hfault⟩
    · rintro ⟨-, info, line, hreaches, hline, hfault⟩
      exact ⟨.ok info, hreaches, .refused hline hfault⟩

theorem capture_fault (fault : Fault) (h : capture machine = .error fault) :
    IsTableFault fault ∨ ∃ refusal, fault = .stat refusal := by
  cases hprocesses : machine.hasProcessTable with
  | false =>
    rw [capture_of_no_table hprocesses] at h
    exact Or.inl (Or.inl (Except.error.inj h).symm)
  | true =>
    obtain ⟨item, -, hstops⟩ := (capture_eq_error_iff hprocesses).mp h
    cases hstops with
    | @ends _ cause => exact Or.inl (Or.inr ⟨cause, rfl⟩)
    | @refused _ _ refusal => exact Or.inr ⟨refusal, rfl⟩

theorem not_isTableFault_stat (refusal : StatFault) : ¬IsTableFault (.stat refusal) := by
  rintro (h | ⟨cause, h⟩) <;> cases h

/-- The capture fails in a documented way, unless it comes to a line that is malformed: then the
refusal of that line gets out as it is, which the uptime of a container never lets happen. -/
theorem capture_contained_iff (machine : Machine) :
    ((∀ fault, capture machine = .error fault → IsTableFault fault) ↔
      (machine.hasProcessTable = true → ∀ info line, Reaches machine (.ok info) →
        machine.contents (Stat.path info.pid) = .ok line → Stat.WellFormed line)) ∧
    (∀ refusal, capture machine = .error (.stat refusal) ↔ machine.hasProcessTable = true ∧
      ∃ info line, Reaches machine (.ok info) ∧
        machine.contents (Stat.path info.pid) = .ok line ∧ Stat.RefusedFor line refusal) ∧
    ∀ line refusal, machine.contents (Stat.path 1) = .ok line → Stat.RefusedFor line refusal →
      Uptime.container machine = .error (.source (.containerUptime refusal)) := by
  refine ⟨⟨?_, ?_⟩, fun _ => capture_refused_iff, ?_⟩
  · intro hcontained hprocesses info line hreaches hline
    apply (Stat.wellFormed_or_refusedFor line).resolve_right
    rintro ⟨refusal, hrefusal⟩
    have hcapture := capture_refused_iff.mpr ⟨hprocesses, info, line, hreaches, hline, hrefusal⟩
    exact not_isTableFault_stat refusal (hcontained _ hcapture)
  · intro hlines fault hfault
    apply (capture_fault fault hfault).resolve_right
    rintro ⟨refusal, rfl⟩
    obtain ⟨hprocesses, info, line, hreaches, hline, hrefusal⟩ := capture_refused_iff.mp hfault
    exact hrefusal.not_wellFormed (hlines hprocesses info line hreaches hline)
  · intro line refusal hline hrefusal
    rw [Uptime.container, Uptime.firstStart, Stat.ofProcess_of_refused hline hrefusal]
    rfl

/-! ## An empty line -/

/-- The first process has a status line, and the second, which ends, has an empty one. -/
def emptyLine : Machine :=
  { Machine.bare.withFiles [(Stat.path 7, shellLine), (Stat.path 8, [])] with
    processes := [.ok (unowned 7 (.ok ⟨1, 2⟩)), .ok (unowned 8 (.ok ⟨1, 2⟩))] }

theorem refusedFor_nil : Stat.RefusedFor [] .missingField :=
  Stat.ofLine_eq_error_iff.mp (by decide +kernel)

theorem reaches_second_of_emptyLine : Reaches emptyLine (.ok (unowned 8 (.ok ⟨1, 2⟩))) := by
  have hshown : IsShown emptyLine (unowned 7 (.ok ⟨1, 2⟩))
      ⟨"a) b".toList, 7, 1025, 7, 5, 6, 99⟩ :=
    ⟨shellLine, rfl, Stat.ofLine_eq_ok_iff.mp (by decide +kernel)⟩
  exact ⟨[unowned 7 (.ok ⟨1, 2⟩)], [_], [],
    .cons (.captured hshown (Or.inr ⟨rfl, rfl⟩) (record_isRecordOf _ _)) .nil, rfl⟩

theorem capture_stopped_by_empty_line :
    Reaches emptyLine (.ok (unowned 8 (.ok ⟨1, 2⟩))) ∧ Stat.RefusedFor [] .missingField ∧
      capture emptyLine = .error (.stat .missingField) ∧
      ¬∀ fault, capture emptyLine = .error fault → IsTableFault fault := by
  obtain ⟨hcontained, hrefused, -⟩ := capture_contained_iff emptyLine
  have hreaches := reaches_second_of_emptyLine
  refine ⟨hreaches, refusedFor_nil, ?_, ?_⟩
  · exact (hrefused .missingField).mpr ⟨rfl, _, [], hreaches, rfl, refusedFor_nil⟩
  · intro h
    exact refusedFor_nil.not_wellFormed (hcontained.mp h rfl _ [] hreaches rfl)

/-- The table of the first process is there, but the empty line of the second hides it. -/
theorem table_hidden_by_empty_line :
    (∃ record, capture { emptyLine with processes := emptyLine.processes.take 1 } =
        .ok ⟨[record], 100⟩) ∧
      capture emptyLine = .error (.stat .missingField) ∧
      ¬IsTableFault (.stat .missingField) := by
  refine ⟨⟨⟨7, 7, 2, 1, 1025, 7, 7, 11, 99, "[a) b]".toList⟩, ?_⟩, ?_, not_isTableFault_stat _⟩
  all_goals decide +kernel

end ProcessTable

end LoginReport
