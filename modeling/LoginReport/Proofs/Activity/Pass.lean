import LoginReport.Activity
import Mathlib.Algebra.Ring.Int.Defs
import Mathlib.Data.List.Induction

set_option autoImplicit false

/-!
# One pass over the process table

What a single process does to the pass, said once. A process takes the place of the one shown if it
seeds the pass or is promoted, and it stands in if it is the newest of the terminal so far and there
is no command yet. The login is found and the ticks are added up whatever is shown.
-/

namespace LoginReport.Activity

def showing (found : Bool) (terminalTicks : Int) : Option ProcessRecord → Activity
  | none => { found, terminalTicks }
  | some process =>
    { found
      terminalTicks
      ticks := process.ticks
      pid := process.pid
      command := process.command.take commandSize }

/-- There is no command yet, or one that cannot be told from none. -/
def lacksCommand : Option ProcessRecord → Bool
  | none => true
  | some process => process.command == ['-']

theorem take_command_eq_dash (command : Text) :
    command.take commandSize = ['-'] ↔ command = ['-'] := by
  constructor
  · intro h
    have hl := congrArg List.length h
    rw [List.length_take, List.length_singleton, commandSize] at hl
    rwa [List.take_of_length_le (by rw [commandSize]; omega)] at h
  · rintro rfl
    rfl

theorem command_showing (found : Bool) (terminalTicks : Int) (shown : Option ProcessRecord) :
    (showing found terminalTicks shown).command = ['-'] ↔ lacksCommand shown = true := by
  cases shown with
  | none => simp [showing, lacksCommand]
  | some process =>
    rw [lacksCommand, beq_iff_eq]
    exact take_command_eq_dash process.command

namespace Scan

def Shows (scan : Scan) (shown : Option ProcessRecord) : Prop :=
  scan.result = showing scan.found scan.terminalTicks shown

def eligible (owner : Option Int) (terminal : Int) (process : ProcessRecord) : Bool :=
  process.terminal == terminal && isForeground owner process

def counted (scan : Scan) (process : ProcessRecord) : Scan :=
  { scan with terminalTicks := scan.terminalTicks + process.ticks }

/-- The process is the first of the login to be read before any other is shown for good. -/
def Seeds (leader : Int) (scan : Scan) (process : ProcessRecord) : Prop :=
  process.leader = leader ∧ scan.bestTime = 0

def Takes (owner : Option Int) (terminal leader : Int) (scan : Scan) (process : ProcessRecord) :
    Prop :=
  Seeds leader scan process ∨
    eligible owner terminal process = true ∧ scan.bestTime < process.startTime

/-- The process is newer than all of the terminal that the pass has read. -/
def Rises (scan : Scan) (process : ProcessRecord) : Prop :=
  scan.newestTime = 0 ∨ scan.newestTime < process.startTime

instance (leader : Int) (scan : Scan) (process : ProcessRecord) :
    Decidable (Seeds leader scan process) :=
  inferInstanceAs (Decidable (_ ∧ _))

instance (owner : Option Int) (terminal leader : Int) (scan : Scan) (process : ProcessRecord) :
    Decidable (Takes owner terminal leader scan process) :=
  inferInstanceAs (Decidable (_ ∨ _))

instance (scan : Scan) (process : ProcessRecord) : Decidable (Rises scan process) :=
  inferInstanceAs (Decidable (_ ∨ _))

section

variable {owner : Option Int} {terminal leader : Int} {scan other : Scan} {process : ProcessRecord}
  {shown : Option ProcessRecord}

theorem Shows.congr (h : scan.Shows shown) (ht : other.ticks = scan.ticks)
    (hp : other.pid = scan.pid) (hc : other.command = scan.command) : other.Shows shown := by
  cases shown <;> simp_all [Shows, result, showing]

theorem Shows.command_eq_dash (h : scan.Shows shown) :
    scan.command = ['-'] ↔ lacksCommand shown = true := by
  rw [← command_showing scan.found scan.terminalTicks shown, ← h, result]

theorem seed_of_seeds (h : Seeds leader scan process) :
    seed leader scan process =
      { scan.shows process with found := true, bestTime := process.startTime } := by
  rw [seed, if_pos h.1, if_pos h.2]

theorem seed_of_not_seeds (h : ¬Seeds leader scan process) :
    seed leader scan process =
      { scan with found := scan.found || decide (process.leader = leader) } := by
  unfold seed
  by_cases hl : process.leader = leader
  · rw [if_pos hl, if_neg (fun hb => h ⟨hl, hb⟩)]
    simp [hl]
  · rw [if_neg hl]
    simp [hl]

theorem seed_shows (h : scan.Shows shown) :
    (seed leader scan process).Shows
      (if Seeds leader scan process then some process else shown) := by
  by_cases hs : Seeds leader scan process
  · rw [if_pos hs, seed_of_seeds hs]
    rfl
  · rw [if_neg hs, seed_of_not_seeds hs]
    exact h.congr rfl rfl rfl

theorem seed_found :
    (seed leader scan process).found = (scan.found || decide (process.leader = leader)) := by
  by_cases hs : Seeds leader scan process
  · rw [seed_of_seeds hs]
    simp [hs.1]
  · rw [seed_of_not_seeds hs]

theorem seed_bestTime :
    (seed leader scan process).bestTime =
      if Seeds leader scan process then process.startTime else scan.bestTime := by
  by_cases hs : Seeds leader scan process
  · rw [seed_of_seeds hs, if_pos hs]
  · rw [seed_of_not_seeds hs, if_neg hs]

theorem seed_frame :
    (seed leader scan process).terminalTicks = scan.terminalTicks ∧
      (seed leader scan process).newestTime = scan.newestTime := by
  by_cases hs : Seeds leader scan process
  · rw [seed_of_seeds hs]
    exact ⟨rfl, rfl⟩
  · rw [seed_of_not_seeds hs]
    exact ⟨rfl, rfl⟩

theorem standIn_of_not_rises (h : ¬Rises scan process) : standIn scan process = scan := by
  unfold Rises at h
  rw [standIn, if_pos (by omega)]

theorem standIn_of_rises (h : Rises scan process) :
    standIn scan process =
      if scan.command = ['-'] then { scan.shows process with newestTime := process.startTime }
      else { scan with newestTime := process.startTime } := by
  unfold Rises at h
  rw [standIn, if_neg (by omega)]
  rfl

theorem standIn_shows (h : scan.Shows shown) :
    (standIn scan process).Shows
      (if Rises scan process ∧ lacksCommand shown = true then some process else shown) := by
  by_cases hr : Rises scan process
  · rw [standIn_of_rises hr]
    by_cases hc : lacksCommand shown = true
    · rw [if_pos (h.command_eq_dash.mpr hc), if_pos ⟨hr, hc⟩]
      rfl
    · rw [if_neg (fun hd => hc (h.command_eq_dash.mp hd)), if_neg (fun hb => hc hb.2)]
      exact h.congr rfl rfl rfl
  · rw [standIn_of_not_rises hr, if_neg (fun hb => hr hb.1)]
    exact h

theorem standIn_newestTime :
    (standIn scan process).newestTime =
      if Rises scan process then process.startTime else scan.newestTime := by
  by_cases hr : Rises scan process
  · rw [standIn_of_rises hr, if_pos hr]
    split <;> rfl
  · rw [standIn_of_not_rises hr, if_neg hr]

theorem standIn_frame :
    (standIn scan process).found = scan.found ∧
      (standIn scan process).terminalTicks = scan.terminalTicks ∧
      (standIn scan process).bestTime = scan.bestTime := by
  by_cases hr : Rises scan process
  · rw [standIn_of_rises hr]
    split <;> exact ⟨rfl, rfl, rfl⟩
  · rw [standIn_of_not_rises hr]
    exact ⟨rfl, rfl, rfl⟩

theorem promote_shows (h : scan.Shows shown) :
    (promote owner scan process).Shows
      (if isForeground owner process = true ∧ scan.bestTime < process.startTime then some process
        else shown) := by
  unfold promote
  split
  · rfl
  · exact h

theorem promote_bestTime :
    (promote owner scan process).bestTime =
      if isForeground owner process = true ∧ scan.bestTime < process.startTime then
        process.startTime
      else scan.bestTime := by
  unfold promote
  split <;> rfl

theorem promote_frame :
    (promote owner scan process).found = scan.found ∧
      (promote owner scan process).terminalTicks = scan.terminalTicks ∧
      (promote owner scan process).newestTime = scan.newestTime := by
  unfold promote
  split <;> exact ⟨rfl, rfl, rfl⟩

theorem promote_standIn_shows (h : scan.Shows shown) :
    (promote owner (standIn scan process) process).Shows
      (if (isForeground owner process = true ∧ scan.bestTime < process.startTime) ∨
          (Rises scan process ∧ lacksCommand shown = true) then some process
        else shown) := by
  have hp : (promote owner (standIn scan process) process).Shows _ :=
    promote_shows (standIn_shows h)
  rw [standIn_frame.2.2] at hp
  by_cases hb : isForeground owner process = true ∧ scan.bestTime < process.startTime
  · rw [if_pos (Or.inl hb)]
    rwa [if_pos hb] at hp
  · rw [if_neg hb] at hp
    simpa only [hb, false_or] using hp

theorem step_of_elsewhere (h : process.terminal ≠ terminal) :
    step owner terminal leader scan process = seed leader scan process := by
  rw [step, if_neg h]

theorem step_of_terminal (h : process.terminal = terminal) :
    step owner terminal leader scan process =
      promote owner (standIn (counted (seed leader scan process) process) process) process := by
  rw [step, if_pos h]
  rfl

theorem step_found :
    (step owner terminal leader scan process).found =
      (scan.found || decide (process.leader = leader)) := by
  by_cases ht : process.terminal = terminal
  · rw [step_of_terminal ht, promote_frame.1, standIn_frame.1]
    exact seed_found
  · rw [step_of_elsewhere ht, seed_found]

theorem step_terminalTicks :
    (step owner terminal leader scan process).terminalTicks =
      scan.terminalTicks + if process.terminal = terminal then process.ticks else 0 := by
  by_cases ht : process.terminal = terminal
  · rw [step_of_terminal ht, promote_frame.2.1, standIn_frame.2.1, counted, seed_frame.1,
      if_pos ht]
  · rw [step_of_elsewhere ht, seed_frame.1, if_neg ht, Int.add_zero]

theorem step_newestTime :
    (step owner terminal leader scan process).newestTime =
      if process.terminal = terminal ∧ Rises scan process then process.startTime
      else scan.newestTime := by
  by_cases ht : process.terminal = terminal
  · rw [step_of_terminal ht, promote_frame.2.2, standIn_newestTime]
    simp only [Rises, counted, ht, true_and, seed_frame.2]
  · rw [step_of_elsewhere ht, seed_frame.2, if_neg (fun h => ht h.1)]

theorem step_bestTime :
    (step owner terminal leader scan process).bestTime =
      if Takes owner terminal leader scan process then process.startTime else scan.bestTime := by
  by_cases ht : process.terminal = terminal
  · -- A process that seeds the pass is not newer than itself, so it is not promoted as well.
    rw [step_of_terminal ht, promote_bestTime, standIn_frame.2.2, counted, seed_bestTime]
    by_cases hs : Seeds leader scan process <;>
      simp [Takes, eligible, ht, hs]
  · rw [step_of_elsewhere ht, seed_bestTime]
    simp [Takes, eligible, ht]

theorem step_shows (h : scan.Shows shown) :
    (step owner terminal leader scan process).Shows
      (if Takes owner terminal leader scan process ∨
          (process.terminal = terminal ∧ Rises scan process) ∧ lacksCommand shown = true then
        some process
      else shown) := by
  have hseed : (seed leader scan process).Shows
      (if Seeds leader scan process then some process else shown) := seed_shows h
  by_cases ht : process.terminal = terminal
  · rw [step_of_terminal ht]
    have hcounted : (counted (seed leader scan process) process).Shows _ :=
      hseed.congr rfl rfl rfl
    have hall : (promote owner (standIn (counted (seed leader scan process) process) process)
        process).Shows _ := promote_standIn_shows hcounted
    have hbest : (counted (seed leader scan process) process).bestTime =
        if Seeds leader scan process then process.startTime else scan.bestTime := seed_bestTime
    have hrises : Rises (counted (seed leader scan process) process) process ↔
        Rises scan process := by
      simp only [Rises, counted, seed_frame.2]
    rw [hbest] at hall
    simp only [hrises] at hall
    by_cases hs : Seeds leader scan process
    · have htakes : Takes owner terminal leader scan process := Or.inl hs
      rw [if_pos (Or.inl htakes)]
      simpa only [if_pos hs, ite_self] using hall
    · simp only [if_neg hs] at hall
      simpa [Takes, eligible, ht, hs] using hall
  · rw [step_of_elsewhere ht]
    simpa [Takes, eligible, ht] using hseed

end

variable (owner : Option Int) (terminal leader : Int) (processes : List ProcessRecord)

theorem run_concat (process : ProcessRecord) :
    run owner terminal leader (processes ++ [process]) =
      step owner terminal leader (run owner terminal leader processes) process := by
  rw [run, List.foldl_append]
  rfl

theorem run_found :
    (run owner terminal leader processes).found =
      processes.any fun process => process.leader = leader := by
  induction processes using List.reverseRecOn with
  | nil => rfl
  | append_singleton processes process ih =>
    rw [run_concat, step_found, ih, List.any_append]
    simp

theorem run_terminalTicks :
    (run owner terminal leader processes).terminalTicks =
      ((processes.filter fun process => process.terminal = terminal).map
        ProcessRecord.ticks).sum := by
  induction processes using List.reverseRecOn with
  | nil => rfl
  | append_singleton processes process ih =>
    rw [run_concat, step_terminalTicks, ih, List.filter_append, List.map_append, List.sum_append]
    by_cases ht : process.terminal = terminal <;> simp [ht]

end Scan

end LoginReport.Activity
