import LoginReport.Proofs.Interval.Rate
import LoginReport.Proofs.Printout.Faults
import LoginReport.Proofs.Printout.Header
import LoginReport.Proofs.Time.Representable

set_option autoImplicit false

/-!
# Well-formed machines

On a well-formed machine everything that can be read makes sense: fields are numerals, times can be
told and clocks tick. Any source of it may still fail. No row is ever refused on it, and what a
report reads fails as a source does, except for the load average.
-/

namespace LoginReport

open Binary64

structure Machine.IsWellFormed (machine : Machine) : Prop where
  rate : ∀ n, machine.clockTicks = some n → 1 ≤ n ∧ n.natAbs < overflowThreshold
  lines : ∀ pid line, machine.contents (Stat.path pid) = .ok line → Stat.WellFormed line
  registry : ∀ program, SessionSource.ofMachine machine = .registry program →
    ¬Registry.IsInterrupted machine program
  now : machine.IsTime machine.now
  boot : ∀ boot, machine.bootTime = .ok boot → boot.IsSeconds
  started : ∀ stat, Stat.ofProcess machine 1 = .ok stat →
    ∃ started, ratio stat.startTicks machine.hertz = .ok started ∧ started.IsSeconds
  accessed : ∀ path device, machine.device path = some device → device.accessed.IsSeconds
  logins : ∀ session ∈ ((SessionSource.ofMachine machine).listing machine).sessions,
    machine.IsTime session.startTime

/-- A report comes to the load average: it has a header, and what is read before can be read. -/
structure Machine.AsksLoad (machine : Machine) (settings : Settings) : Prop where
  header : settings.header = true
  table : ∃ table, ProcessTable.capture machine = .ok table
  uptime : ∃ seconds, Uptime.seconds machine settings.container = .ok seconds

theorem Uptime.system_isOfSource (machine : Machine) :
    FaultsAre Fault.IsOfSource (system machine) := by
  unfold system
  split
  · exact FaultsAre.ok _
  · rintro fault ⟨⟩
    rfl

namespace Machine.IsWellFormed

variable {machine : Machine} (h : machine.IsWellFormed)

include h

theorem hertz : 0 < machine.hertz ∧ machine.hertz.natAbs < overflowThreshold := by
  unfold Machine.hertz
  cases hticks : machine.clockTicks with
  | none => decide +kernel
  | some n =>
    obtain ⟨hpos, hfinite⟩ := h.rate n hticks
    exact ⟨by rw [Option.getD_some]; omega, hfinite⟩

theorem capture_faults : FaultsAre Fault.IsOfSource (ProcessTable.capture machine) := by
  intro fault hfault
  rcases ProcessTable.capture_fault fault hfault with (rfl | ⟨cause, rfl⟩) | ⟨refusal, rfl⟩
  · rfl
  · rfl
  · obtain ⟨-, info, line, -, hline, hrefusal⟩ := ProcessTable.capture_refused_iff.mp hfault
    exact absurd (h.lines info.pid line hline) hrefusal.not_wellFormed

/-! ## The uptime -/

theorem isWithin_system {up : Binary64} (hup : Uptime.system machine = .ok up) :
    up.IsWithin (4 * clockLimit) := by
  unfold Uptime.system at hup
  split at hup
  · rename_i boot hboot
    obtain rfl := Except.ok.inj hup
    exact h.now.isSeconds.sub (h.boot boot hboot)
  · cases hup

theorem isSeconds_firstStart {started : Binary64}
    (hstarted : Uptime.firstStart machine = .ok started) : started.IsSeconds := by
  unfold Uptime.firstStart at hstarted
  split at hstarted
  · rename_i stat hstat
    obtain ⟨other, hratio, hseconds⟩ := h.started stat hstat
    rw [mapError_eq_ok, hratio] at hstarted
    obtain rfl := Except.ok.inj hstarted
    exact hseconds
  · cases hstarted

theorem isWithin_seconds {ofContainer : Bool} {up : Binary64}
    (hup : Uptime.seconds machine ofContainer = .ok up) : up.IsWithin farBelow := by
  have hfar := clockLimit_far
  unfold Uptime.seconds at hup
  split at hup
  · obtain ⟨started, hstarted, hrest⟩ := (bind_eq_ok _ _ _).mp hup
    obtain ⟨system, hsystem, hdifference⟩ := (bind_eq_ok _ _ _).mp hrest
    obtain rfl := Except.ok.inj hdifference
    have hwithin := (h.isWithin_system hsystem).sub (h.isSeconds_firstStart hstarted).isWithin
      (by omega)
    exact hwithin.mono (by omega)
  · exact (h.isWithin_system hup).mono (by omega)

theorem firstStart_faults : FaultsAre Fault.IsOfSource (Uptime.firstStart machine) := by
  unfold Uptime.firstStart
  split
  · rename_i stat hstat
    obtain ⟨started, hratio, -⟩ := h.started stat hstat
    exact FaultsAre.of_ok (exists_ok_mapError ⟨started, hratio⟩ _)
  · rintro fault ⟨⟩
    rfl

theorem seconds_faults (ofContainer : Bool) :
    FaultsAre Fault.IsOfSource (Uptime.seconds machine ofContainer) := by
  unfold Uptime.seconds
  split
  · refine h.firstStart_faults.bind fun started _ => ?_
    exact (Uptime.system_isOfSource machine).bind fun up _ => FaultsAre.ok _
  · exact Uptime.system_isOfSource machine

theorem line_ok {up : Binary64} (hup : up.IsWithin farBelow) (average : LoadAverage) :
    ∃ text, Uptime.line machine.zone machine.now up machine.users average = .ok text := by
  obtain ⟨time, htime, -⟩ := h.now
  refine exists_ok_bind (exists_ok_mapError ⟨time, htime⟩ _) fun shown _ => ?_
  exact exists_ok_bind (exists_ok_mapError hup.trunc _) fun seconds _ => ⟨_, rfl⟩

theorem uptime_faults (settings : Settings)
    (hload : ∀ seconds, Uptime.seconds machine settings.container = .ok seconds →
      ∃ average, machine.loadAverage = .ok average) :
    FaultsAre Fault.IsOfSource (Printout.uptime machine settings) := by
  refine (h.seconds_faults settings.container).bind fun seconds hseconds => ?_
  refine FaultsAre.of_ok (exists_ok_bind (exists_ok_mapError (hload seconds hseconds) _) ?_)
  exact fun average _ => h.line_ok (h.isWithin_seconds hseconds) average

/-! ## Rows -/

theorem idle_ok (session : LoginSession) (settings : Settings) :
    ∃ text, Table.idle machine session settings machine.now = .ok text := by
  unfold Table.idle
  split
  · exact ⟨_, rfl⟩
  · refine exists_ok_map (exists_ok_mapError ?_ _) _
    unfold Terminal.idleSeconds
    split
    · exact ⟨0, rfl⟩
    · rename_i device hdevice
      exact (h.now.isSeconds.sub (h.accessed _ device hdevice)).trunc

theorem ticks_ok (n : Int) (settings : Settings) :
    ∃ text, Table.ticks n machine.hertz settings = .ok text :=
  exists_ok_mapError (Interval.ofTicks_ok n settings.oldStyle h.hertz.1 h.hertz.2) _

theorem longTimes_ok (shown : Activity) (settings : Settings) :
    ∃ text, Table.longTimes shown settings machine.hertz = .ok text := by
  unfold Table.longTimes Table.times
  split
  · refine exists_ok_bind (h.ticks_ok _ settings) fun all _ => ?_
    dsimp only
    split
    · exact exists_ok_bind (h.ticks_ok _ settings) fun one _ => ⟨_, rfl⟩
    · exact ⟨_, rfl⟩
  · exact ⟨_, rfl⟩

theorem login_ok {session : LoginSession} (hlogin : machine.IsTime session.startTime)
    (settings : Settings) :
    ∃ text, Table.login machine session settings machine.now = .ok text := by
  unfold Table.login
  split
  · exact exists_ok_mapError (LoginTime.column_ok hlogin h.now) _
  · exact ⟨_, rfl⟩

theorem row_ok {session : LoginSession} (hlogin : machine.IsTime session.startTime)
    (shown : Activity) {settings : Settings} (hbounds : settings.InBounds) :
    ∃ text, Table.row machine session shown settings machine.hertz machine.now = .ok text := by
  obtain ⟨user, huser, -⟩ := Table.user_ok session hbounds
  obtain ⟨origin, horigin, -⟩ := Table.origin_ok session hbounds
  obtain ⟨login, hlogin⟩ := h.login_ok hlogin settings
  obtain ⟨idle, hidle⟩ := h.idle_ok session settings
  obtain ⟨times, htimes⟩ := h.longTimes_ok shown settings
  exact ⟨_, Table.row_eq_ok_iff.mpr ⟨user, huser, origin, horigin, login, hlogin, idle, hidle,
    times, htimes, rfl⟩⟩

/-! ## Sessions -/

theorem listing_fault (fault : Fault)
    (hfault : ((SessionSource.ofMachine machine).listing machine).fault = some fault) :
    fault.IsOfSource := by
  rcases SessionSource.listing_fault hfault with
    ⟨cause, rfl, -⟩ | ⟨-, program, hsource, hinterrupted⟩
  · rfl
  · exact absurd hinterrupted (h.registry program hsource)

end Machine.IsWellFormed

namespace Printout

variable {machine : Machine} {settings : Settings} {table : ProcessTable}

theorem printSession_ok {session : LoginSession}
    (h : ∀ shown, ∃ text, Table.row machine session shown settings table.hertz machine.now =
      .ok text) : (printSession machine settings table session).result = .ok () := by
  unfold printSession
  split
  · refine (Run.result_bind_eq_ok _ _ _).mpr ⟨(), rfl, ?_⟩
    split
    · obtain ⟨text, hrow⟩ := h _
      exact (Run.result_bind_eq_ok _ _ _).mpr ⟨text, hrow, rfl⟩
    · rfl
  · rfl

/-- By the steps of the listing: every session has a row. -/
theorem printSteps_ok (steps : List SessionStep)
    (h : ∀ session ∈ steps.filterMap SessionStep.session?, ∀ shown,
      ∃ text, Table.row machine session shown settings table.hertz machine.now = .ok text) :
    (printSteps machine settings table steps).result = .ok () := by
  induction steps with
  | nil => rfl
  | cons step rest ih =>
    cases step with
    | ran arguments => exact ih h
    | noted notice => exact (Run.result_bind_eq_ok _ _ _).mpr ⟨(), rfl, ih h⟩
    | found session =>
      obtain ⟨hsession, hrest⟩ := List.forall_mem_cons.mp h
      exact (Run.result_bind_eq_ok _ _ _).mpr ⟨(), printSession_ok hsession, ih hrest⟩

end Printout

theorem ProcessTable.hertz_of_capture {machine : Machine} {table : ProcessTable}
    (h : capture machine = .ok table) : table.hertz = machine.hertz := by
  unfold capture at h
  split at h
  · obtain ⟨records, -, rfl⟩ := (map_eq_ok _ _ _).mp h
    rfl
  · cases h

namespace Machine.IsWellFormed

variable {machine : Machine} (h : machine.IsWellFormed) {settings : Settings}

include h

theorem printSessions_faults (hbounds : settings.InBounds) {table : ProcessTable}
    (htable : ProcessTable.capture machine = .ok table) :
    FaultsAre Fault.IsOfSource (Printout.printSessions machine settings table
      ((SessionSource.ofMachine machine).listing machine)).result := by
  refine FaultsAre.run_bind (FaultsAre.of_ok ⟨(), ?_⟩) fun _ _ => ?_
  · refine Printout.printSteps_ok _ fun session hsession shown => ?_
    rw [ProcessTable.hertz_of_capture htable]
    exact h.row_ok (h.logins session hsession) shown hbounds
  · split
    · exact FaultsAre.ok ()
    · rename_i fault hfault
      rintro other ⟨⟩
      exact h.listing_fault fault hfault

theorem printHeader_faults (hbounds : settings.InBounds) {table : ProcessTable}
    (htable : ProcessTable.capture machine = .ok table)
    (hload : AsksLoad machine settings → ∃ average, machine.loadAverage = .ok average) :
    FaultsAre Fault.IsOfSource (Printout.printHeader machine settings).result := by
  unfold Printout.printHeader
  split
  · rename_i hheader
    refine FaultsAre.run_bind (h.uptime_faults settings fun seconds hseconds => ?_) fun text _ => ?_
    · exact hload ⟨hheader, ⟨table, htable⟩, ⟨seconds, hseconds⟩⟩
    · exact FaultsAre.of_ok ⟨(), (Run.result_bind_eq_ok _ _ _).mpr
        ⟨_, Printout.header_eq hbounds text, rfl⟩⟩
  · exact FaultsAre.ok ()

theorem print_faults (hbounds : settings.InBounds)
    (hload : AsksLoad machine settings → ∃ average, machine.loadAverage = .ok average) :
    FaultsAre Fault.IsOfSource (Printout.print machine settings).result := by
  refine FaultsAre.run_bind h.capture_faults fun table htable => ?_
  refine FaultsAre.run_bind (h.printHeader_faults hbounds htable hload) fun _ _ => ?_
  exact h.printSessions_faults hbounds htable

end Machine.IsWellFormed

end LoginReport
