import LoginReport.Printout
import LoginReport.Proofs.ProcessTable.Malformed
import LoginReport.Proofs.Session.Enumeration
import LoginReport.Proofs.Table.Columns

set_option autoImplicit false

/-!
# Where faults come from

Each source of a report has faults of its own: the process table, the uptime and the sessions. The
fault of a source stands before its sessions, so once there is a session none follows, and what is
made of a session fails on values only.
-/

namespace LoginReport

inductive Source where
  | processTable
  | uptime
  | sessions
deriving DecidableEq, Repr

def SourceFault.source : SourceFault → Source
  | .noProcessTable => .processTable
  | .processTable _ => .processTable
  | .systemUptime _ => .uptime
  | .containerUptime _ => .uptime
  | .recordFile _ _ => .sessions
  | .bootTime _ => .sessions
  | .sessionList _ => .sessions

/-- The fault is of no other source. -/
def Fault.IsOf (source : Source) (fault : Fault) : Prop :=
  ∀ cause, fault = .source cause → cause.source = source

/-- The fault is of a source. -/
def Fault.IsOfSource (fault : Fault) : Prop := fault.isSource = true

/-- The fault is of no source. -/
def Fault.IsOfValue (fault : Fault) : Prop := fault.isSource = false

theorem Fault.IsOfValue.isOf {fault : Fault} (h : fault.IsOfValue) (source : Source) :
    fault.IsOf source := by
  rintro cause rfl
  cases h

/-- A fault that is wrapped as one of a value. -/
theorem FaultsAre.ofValue {ε α : Type} (wrap : ε → Fault) (h : ∀ cause, (wrap cause).IsOfValue)
    (result : Except ε α) : FaultsAre Fault.IsOfValue (result.mapError wrap) :=
  FaultsAre.mapError h result

theorem isOf_source {cause : SourceFault} : (Fault.source cause).IsOf cause.source := by
  intro other hother
  rw [Fault.source.inj hother]

theorem Fault.IsOfValue.ne_source {fault : Fault} (h : fault.IsOfValue) (cause : SourceFault) :
    fault ≠ .source cause := by
  rintro rfl
  cases h

theorem FaultsAre.ne_source {α : Type} {result : Except Fault α}
    (h : FaultsAre Fault.IsOfValue result) (cause : SourceFault) :
    result ≠ .error (.source cause) :=
  fun hcause => (h _ hcause).ne_source cause rfl

theorem FaultsAre.source_eq {α : Type} {result : Except Fault α} {source : Source}
    (h : FaultsAre (Fault.IsOf source) result) {cause : SourceFault}
    (hcause : result = .error (.source cause)) : cause.source = source :=
  h _ hcause cause rfl

/-! ## The process table and the uptime -/

theorem ProcessTable.capture_faults (machine : Machine) :
    FaultsAre (Fault.IsOf .processTable) (capture machine) := by
  intro fault hfault
  rcases capture_fault fault hfault with (rfl | ⟨cause, rfl⟩) | ⟨refusal, rfl⟩
  · exact isOf_source
  · exact isOf_source
  · exact Fault.IsOfValue.isOf (show Fault.IsOfValue (.stat refusal) from rfl) _

namespace Uptime

theorem system_faults (machine : Machine) :
    FaultsAre (Fault.IsOf .uptime) (system machine) := by
  unfold system
  split
  · exact FaultsAre.ok _
  · rintro fault ⟨⟩
    exact isOf_source

theorem firstStart_faults (machine : Machine) :
    FaultsAre (Fault.IsOf .uptime) (firstStart machine) := by
  unfold firstStart
  split
  · exact (FaultsAre.ofValue Fault.number (fun _ => rfl) _).mono fun _ h => h.isOf _
  · rintro fault ⟨⟩
    exact isOf_source

theorem seconds_faults (machine : Machine) (ofContainer : Bool) :
    FaultsAre (Fault.IsOf .uptime) (seconds machine ofContainer) := by
  unfold seconds
  split
  · refine (firstStart_faults machine).bind fun started _ => ?_
    refine (system_faults machine).bind fun up _ => ?_
    exact FaultsAre.ok _
  · exact system_faults machine

theorem line_faults (zone : Int) (now uptime : Binary64) (users : Int) (average : LoadAverage) :
    FaultsAre Fault.IsOfValue (line zone now uptime users average) := by
  refine (FaultsAre.ofValue Fault.clock (fun _ => rfl) _).bind fun time _ => ?_
  refine (FaultsAre.ofValue Fault.number (fun _ => rfl) _).bind fun seconds _ => ?_
  exact FaultsAre.ok _

end Uptime

/-! ## Settings, titles and rows -/

namespace Settings

theorem lengthOf_faults (environment : Text → Option Text) (name : Text) (high default : Int) :
    FaultsAre Fault.IsOfValue (lengthOf environment name high default).result := by
  unfold lengthOf
  split
  · exact FaultsAre.ok _
  · split
    · rintro fault ⟨⟩
      rfl
    · split <;> exact FaultsAre.ok _

theorem read_faults (environment : Text → Option Text) (terminal : Option Int)
    (switches : Switches) :
    FaultsAre Fault.IsOfValue (read environment terminal none switches).result := by
  refine FaultsAre.run_bind (lengthOf_faults _ _ _ _) fun user _ => ?_
  refine FaultsAre.run_bind (lengthOf_faults _ _ _ _) fun origin _ => ?_
  refine FaultsAre.run_bind ?_ fun columns _ => FaultsAre.ok _
  exact FaultsAre.ofValue Fault.numeral (fun _ => rfl) _

end Settings


namespace Table

theorem titles_faults (settings : Settings) :
    FaultsAre Fault.IsOfValue (titles settings) := by
  refine (FaultsAre.ofValue Fault.width (fun _ => rfl) _).bind fun user _ => ?_
  dsimp only
  split
  · exact (FaultsAre.ofValue Fault.width (fun _ => rfl) _).bind fun origin _ => FaultsAre.ok _
  · exact FaultsAre.ok _

variable (machine : Machine) (session : LoginSession) (shown : Activity) (settings : Settings)

theorem origin_faults : FaultsAre Fault.IsOfValue (origin session settings) := by
  unfold origin
  split
  · exact FaultsAre.ofValue Fault.width (fun _ => rfl) _
  · exact FaultsAre.ok _

theorem login_faults (now : Binary64) :
    FaultsAre Fault.IsOfValue (login machine session settings now) := by
  unfold login
  split
  · exact FaultsAre.ofValue Fault.clock (fun _ => rfl) _
  · exact FaultsAre.ok _

theorem idle_faults (now : Binary64) :
    FaultsAre Fault.IsOfValue (idle machine session settings now) := by
  unfold idle
  split
  · exact FaultsAre.ok _
  · exact (FaultsAre.ofValue Fault.number (fun _ => rfl) _).map _

theorem times_faults (hertz : Int) :
    FaultsAre Fault.IsOfValue (times shown settings hertz) := by
  refine (FaultsAre.ofValue Fault.number (fun _ => rfl) _).bind fun all _ => ?_
  dsimp only
  split
  · exact (FaultsAre.ofValue Fault.number (fun _ => rfl) _).bind fun one _ => FaultsAre.ok _
  · exact FaultsAre.ok _

theorem row_faults (hertz : Int) (now : Binary64) :
    FaultsAre Fault.IsOfValue (row machine session shown settings hertz now) := by
  refine (FaultsAre.ofValue Fault.width (fun _ => rfl) _).bind fun user _ => ?_
  refine (origin_faults session settings).bind fun origin _ => ?_
  refine (login_faults machine session settings now).bind fun login _ => ?_
  refine (idle_faults machine session settings now).bind fun idle _ => ?_
  dsimp only
  split
  · exact (times_faults shown settings hertz).bind fun times _ => FaultsAre.ok _
  · exact FaultsAre.ok _

end Table

/-! ## Sessions -/

theorem RecordFile.listing_fault {machine : Machine} {path : Text} {fault : Fault}
    (h : (listing machine path).fault = some fault) :
    (∃ cause, fault = .source (.recordFile path cause)) ∧ (listing machine path).sessions = [] := by
  unfold listing at h ⊢
  split at h
  · cases h
  · rename_i cause _
    split at h
    · cases h
    · rename_i hmissing
      rw [if_neg hmissing]
      exact ⟨⟨cause, (Option.some.inj h).symm⟩, rfl⟩

namespace Registry

variable {machine : Machine} {program : Text} {fault : Fault}

theorem sessions_of_no_boot {cause : BootFault} (h : machine.bootTime = .error cause) :
    (listing machine program).sessions = [] := by
  rw [listing, h]
  rfl

theorem sessions_of_no_list {cause : CommandFault} {boot : Binary64}
    (hboot : machine.bootTime = .ok boot)
    (h : machine.output (listCommand program) = .error (.command cause)) :
    (listing machine program).sessions = [] := by
  rw [listing, hboot]
  dsimp only
  rw [h]
  rfl

/-- The list is not passed on, or a session of it is broken. -/
inductive IsInterrupted (machine : Machine) (program : Text) : Prop where
  | exchange {cause : ExchangeFault}
      (hlist : machine.output (listCommand program) = .error (.exchange cause))
  | broken {output identifier : Text} (hlist : machine.output (listCommand program) = .ok output)
      (hidentifier : identifier ∈ identifiers output)
      (hbroken : IsBroken machine program identifier)

/-- Beside its sources, only an interruption ends a listing. -/
theorem listing_fault (h : (listing machine program).fault = some fault) :
    (∃ cause, fault = .source cause ∧ cause.source = .sessions ∧
      (listing machine program).sessions = []) ∨
    (fault.IsOfValue ∧ IsInterrupted machine program) := by
  cases hboot : machine.bootTime with
  | error cause =>
    rw [fault_of_bootTime hboot] at h
    exact Or.inl ⟨.bootTime cause, (Option.some.inj h).symm, rfl, sessions_of_no_boot hboot⟩
  | ok boot =>
    cases hlist : machine.output (listCommand program) with
    | error cause =>
      cases cause with
      | command cause =>
        rw [fault_of_list hboot hlist] at h
        exact Or.inl ⟨.sessionList cause, (Option.some.inj h).symm, rfl,
          sessions_of_no_list hboot hlist⟩
      | exchange cause =>
        rw [fault_of_exchange hboot hlist] at h
        obtain rfl := Option.some.inj h
        exact Or.inr ⟨rfl, .exchange hlist⟩
    | ok output =>
      by_cases hsound : ∀ identifier ∈ identifiers output, ¬IsBroken machine program identifier
      · obtain ⟨told, -, hlisting⟩ := listing_of_sound hboot hlist hsound
        rw [hlisting] at h
        cases h
      · push Not at hsound
        obtain ⟨identifier, hidentifier, hbroken⟩ := hsound
        obtain ⟨before, first, after, hsplit, hbefore, hfirst⟩ :=
          exists_first_isBroken hidentifier hbroken
        obtain ⟨told, cause, -, hlisting, hvalue⟩ :=
          listing_of_isBroken hboot hlist hsplit hbefore hfirst
        rw [hlisting] at h
        obtain rfl := Option.some.inj h
        exact Or.inr ⟨hvalue, .broken hlist hidentifier hbroken⟩

end Registry

/-- A listing ends with a fault of its source before the first session, or is interrupted. -/
theorem SessionSource.listing_fault {machine : Machine} {source : SessionSource} {fault : Fault}
    (h : (source.listing machine).fault = some fault) :
    (∃ cause, fault = .source cause ∧ cause.source = .sessions ∧
      (source.listing machine).sessions = []) ∨
    (fault.IsOfValue ∧ ∃ program, source = .registry program ∧
      Registry.IsInterrupted machine program) := by
  cases source with
  | recordFile path =>
    obtain ⟨⟨cause, rfl⟩, hnone⟩ := RecordFile.listing_fault h
    exact Or.inl ⟨.recordFile path cause, rfl, rfl, hnone⟩
  | registry program =>
    rcases Registry.listing_fault h with hsource | ⟨hvalue, hinterrupted⟩
    · exact Or.inl hsource
    · exact Or.inr ⟨hvalue, program, rfl, hinterrupted⟩

theorem SessionSource.listing_of_source_fault {machine : Machine} {source : SessionSource}
    {cause : SourceFault} (h : (source.listing machine).fault = some (.source cause)) :
    (source.listing machine).sessions = [] ∧ cause.source = .sessions := by
  rcases listing_fault h with ⟨other, hsame, hsource, hnone⟩ | ⟨hvalue, -⟩
  · obtain rfl := Fault.source.inj hsame
    exact ⟨hnone, hsource⟩
  · exact absurd rfl (hvalue.ne_source cause)

namespace Printout

variable (machine : Machine) (settings : Settings) (table : ProcessTable)

theorem printSession_faults (session : LoginSession) :
    FaultsAre Fault.IsOfValue (printSession machine settings table session).result := by
  unfold printSession
  split
  · refine FaultsAre.run_bind (FaultsAre.ok ()) fun _ _ => ?_
    split
    · refine FaultsAre.run_bind (Table.row_faults _ _ _ _ _ _) fun line _ => ?_
      exact FaultsAre.ok ()
    · exact FaultsAre.ok ()
  · exact FaultsAre.ok ()

/-- By the steps of the listing: only a session's row may fail. -/
theorem printSteps_faults (steps : List SessionStep) :
    FaultsAre Fault.IsOfValue (printSteps machine settings table steps).result := by
  induction steps with
  | nil => exact FaultsAre.ok ()
  | cons step rest ih =>
    cases step with
    | ran arguments => exact ih
    | noted notice => exact FaultsAre.run_bind (FaultsAre.ok ()) fun _ _ => ih
    | found session =>
      exact FaultsAre.run_bind (printSession_faults machine settings table session) fun _ _ => ih

theorem header_faults (uptime : Text) : FaultsAre Fault.IsOfValue (header settings uptime) :=
  (Table.titles_faults settings).map _

theorem uptime_faults : FaultsAre (Fault.IsOf .uptime) (uptime machine settings) := by
  refine (Uptime.seconds_faults machine settings.container).bind fun seconds _ => ?_
  refine ((FaultsAre.ofValue Fault.load (fun _ => rfl) _).mono fun _ h => h.isOf _).bind
    fun load _ => ?_
  exact (Uptime.line_faults _ _ _ _ _).mono fun _ h => h.isOf _

end Printout

end LoginReport
