import LoginReport.Proofs.Activity.Candidates
import LoginReport.Proofs.Activity.Pass

set_option autoImplicit false

/-!
# Standing in

What a pass shows after any table, where all processes started after the boot. The best candidate is
shown if it has a command. Behind one without, or without any, the newest process of the terminal
stands in, until one with a command has done so.
-/

namespace LoginReport.Activity

/-- The process started after all of the terminal in the table. -/
def IsNewer (terminal : Int) (processes : List ProcessRecord) (process : ProcessRecord) : Prop :=
  ∀ other ∈ processes, other.terminal = terminal → other.startTime < process.startTime

instance (terminal : Int) (processes : List ProcessRecord) :
    DecidablePred (IsNewer terminal processes) := fun _ =>
  inferInstanceAs (Decidable (∀ other ∈ processes, _))

/-- The processes of the terminal that started after all of the terminal before them, where others
were read already. -/
def rising (terminal : Int) : List ProcessRecord → List ProcessRecord → List ProcessRecord
  | _, [] => []
  | before, process :: rest =>
    if process.terminal = terminal ∧ IsNewer terminal before process then
      process :: rising terminal (before ++ [process]) rest
    else rising terminal (before ++ [process]) rest

/-- Of the processes that rise, the first with a command or else the last. -/
def standIn? (risen : List ProcessRecord) : Option ProcessRecord :=
  (risen.find? fun process => process.command ≠ ['-']).or risen.getLast?

def standFor (shown : Option ProcessRecord) (risen : List ProcessRecord) : Option ProcessRecord :=
  if lacksCommand shown then (standIn? risen).or shown else shown

/-- The table is split behind the best process; all of it is behind none. -/
def SplitBehind (processes before after : List ProcessRecord) : Option ProcessRecord → Prop
  | none => before = [] ∧ after = processes
  | some best =>
    processes = before ++ after ∧ ∃ earlier, before = earlier ++ [best] ∧ best ∉ earlier

section

variable {terminal : Int} {processes before after : List ProcessRecord} {process : ProcessRecord}

theorem rising_concat :
    rising terminal before (after ++ [process]) =
      rising terminal before after ++
        if process.terminal = terminal ∧ IsNewer terminal (before ++ after) process then [process]
        else [] := by
  induction after generalizing before with
  | nil =>
    rw [List.append_nil]
    rfl
  | cons first rest ih =>
    rw [List.cons_append, rising, rising, ih, List.append_assoc, List.singleton_append]
    split <;> rfl

theorem standFor_nil (shown : Option ProcessRecord) : standFor shown [] = shown := by
  unfold standFor
  split <;> rfl

theorem standFor_of_command {shown : Option ProcessRecord} (h : lacksCommand shown = false)
    (risen : List ProcessRecord) : standFor shown risen = shown := by
  rw [standFor, h]
  rfl

theorem standFor_concat (shown : Option ProcessRecord) (risen : List ProcessRecord) :
    standFor shown (risen ++ [process]) =
      if lacksCommand (standFor shown risen) = true then some process
      else standFor shown risen := by
  by_cases hl : lacksCommand shown = true
  · simp only [standFor, standIn?, if_pos hl, List.find?_append, List.getLast?_concat]
    cases hf : risen.find? fun process => process.command ≠ ['-'] with
    | some other =>
      have hc := List.find?_some hf
      simp_all [lacksCommand]
    | none =>
      have hall : ∀ other ∈ risen, other.command = ['-'] := by
        simpa using hf
      have hlast : lacksCommand (risen.getLast?.or shown) = true := by
        cases hr : risen.getLast? with
        | none => simpa using hl
        | some other =>
          have hm := hall other (List.mem_of_getLast? hr)
          simp [lacksCommand, hm]
      by_cases hp : process.command = ['-'] <;> simp [hp, hlast]
  · have hl' : lacksCommand shown = false := by simpa using hl
    rw [standFor_of_command hl', standFor_of_command hl', hl']
    rfl

end

namespace SplitBehind

variable {processes before after : List ProcessRecord} {best : Option ProcessRecord}

theorem eq_append (h : SplitBehind processes before after best) : processes = before ++ after := by
  cases best with
  | none =>
    obtain ⟨rfl, rfl⟩ := h
    rfl
  | some best => exact h.1

theorem concat (h : SplitBehind processes before after best) (process : ProcessRecord) :
    SplitBehind (processes ++ [process]) before (after ++ [process]) best := by
  cases best with
  | none =>
    obtain ⟨rfl, rfl⟩ := h
    exact ⟨rfl, rfl⟩
  | some best =>
    obtain ⟨rfl, hearlier⟩ := h
    exact ⟨List.append_assoc _ _ _, hearlier⟩

end SplitBehind

namespace Scan

variable {owner : Option Int} {terminal leader : Int} {processes : List ProcessRecord}

theorem run_rises_iff (hpos : ∀ process ∈ processes, 0 < process.startTime)
    (process : ProcessRecord) :
    Rises (run owner terminal leader processes) process ↔ IsNewer terminal processes process := by
  induction processes using List.reverseRecOn generalizing process with
  | nil => simp [Rises, run, IsNewer]
  | append_singleton processes last ih =>
    have hlast := hpos last (by simp)
    have hbefore := fun other => ih (fun p hp => hpos p (List.mem_append_left _ hp)) other
    have hnewer : IsNewer terminal (processes ++ [last]) process ↔
        IsNewer terminal processes process ∧
          (last.terminal = terminal → last.startTime < process.startTime) := by
      simp [IsNewer, or_imp, forall_and]
    rw [hnewer, ← hbefore process]
    rw [Rises, run_concat, step_newestTime]
    have hr := hbefore last
    unfold Rises at *
    split_ifs with h
    · omega
    · omega

theorem takes_iff {scan : Scan} {process : ProcessRecord} {best : Option ProcessRecord}
    (hbest : scan.bestTime = best.elim 0 ProcessRecord.startTime)
    (hpos : ∀ other ∈ best, 0 < other.startTime) (hp : 0 < process.startTime) :
    Takes owner terminal leader scan process ↔
      (best = none ∧ process.leader = leader) ∨
        (eligible owner terminal process = true ∧
          ∀ other ∈ best, other.startTime < process.startTime) := by
  -- A best time of zero means no best process, because no process started before the boot.
  cases best with
  | none =>
    rw [Option.elim_none] at hbest
    simp [Takes, Seeds, hbest, hp]
  | some best =>
    rw [Option.elim_some] at hbest
    have hb := hpos best rfl
    have hz : best.startTime ≠ 0 := by omega
    simp [Takes, Seeds, hbest, hz]

theorem run_bestTime (hpos : ∀ process ∈ processes, 0 < process.startTime) :
    (run owner terminal leader processes).bestTime =
      (best? (eligible owner terminal) leader processes).elim 0 ProcessRecord.startTime := by
  induction processes using List.reverseRecOn with
  | nil => rfl
  | append_singleton processes process ih =>
    have hbefore := fun p hp => hpos p (List.mem_append_left _ hp)
    have hold := ih hbefore
    have htakes : Takes owner terminal leader (run owner terminal leader processes) process ↔ _ :=
      takes_iff hold (fun other hm => hbefore other (mem_of_best? hm).1) (hpos process (by simp))
    rw [run_concat, step_bestTime, best?_concat, hold]
    simp only [htakes]
    split <;> rfl

theorem run_takes_iff (hpos : ∀ process ∈ processes, 0 < process.startTime)
    {process : ProcessRecord} (hp : 0 < process.startTime) :
    Takes owner terminal leader (run owner terminal leader processes) process ↔
      (best? (eligible owner terminal) leader processes = none ∧ process.leader = leader) ∨
        (eligible owner terminal process = true ∧
          ∀ best ∈ best? (eligible owner terminal) leader processes,
            best.startTime < process.startTime) :=
  takes_iff (run_bestTime hpos) (fun other hm => hpos other (mem_of_best? hm).1) hp

theorem not_mem_of_takes (hpos : ∀ process ∈ processes, 0 < process.startTime)
    {process : ProcessRecord} (hp : 0 < process.startTime)
    (h : Takes owner terminal leader (run owner terminal leader processes) process) :
    process ∉ processes := by
  intro hm
  rcases (run_takes_iff hpos hp).mp h with ⟨hnone, hl⟩ | ⟨he, hnewer⟩
  · have hlogin : login? leader processes ≠ none := fun hno =>
      login?_eq_none_iff.mp hno process hm hl
    exact candidates_ne_nil_of_login hlogin (best?_eq_none_iff.mp hnone)
  · cases hb : best? (eligible owner terminal) leader processes with
    | none =>
      have hc : process ∈ candidates (eligible owner terminal) leader processes :=
        eligible_mem_candidates hm he
      rw [best?_eq_none_iff.mp hb] at hc
      exact List.not_mem_nil hc
    | some best =>
      have hle := le_best? hb hm he
      have hlt := hnewer best hb
      omega

/-- What a pass shows stands for the best candidate behind it. -/
theorem run_shows (hpos : ∀ process ∈ processes, 0 < process.startTime) :
    ∃ before after,
      SplitBehind processes before after (best? (eligible owner terminal) leader processes) ∧
      (run owner terminal leader processes).Shows
        (standFor (best? (eligible owner terminal) leader processes)
          (rising terminal before after)) := by
  induction processes using List.reverseRecOn with
  | nil => exact ⟨[], [], ⟨rfl, rfl⟩, rfl⟩
  | append_singleton processes process ih =>
    have hbefore := fun p hp => hpos p (List.mem_append_left _ hp)
    have hp := hpos process (by simp)
    obtain ⟨before, after, hsplit, hshows⟩ := ih hbefore
    have hnext : (step owner terminal leader (run owner terminal leader processes) process).Shows
        _ := step_shows hshows
    by_cases ht : Takes owner terminal leader (run owner terminal leader processes) process
    · -- Behind a new best process nothing has risen yet.
      have hbest : best? (eligible owner terminal) leader (processes ++ [process]) =
          some process := by
        rw [best?_concat, if_pos ((run_takes_iff hbefore hp).mp ht)]
      rw [if_pos (Or.inl ht)] at hnext
      refine ⟨processes ++ [process], [], ?_, ?_⟩
      · rw [hbest]
        exact ⟨(List.append_nil _).symm, processes, rfl, not_mem_of_takes hbefore hp ht⟩
      · rw [hbest, rising, standFor_nil, run_concat]
        exact hnext
    · -- The best process stays, and one more may rise behind it.
      have hbest : best? (eligible owner terminal) leader (processes ++ [process]) =
          best? (eligible owner terminal) leader processes := by
        rw [best?_concat, if_neg (fun h => ht ((run_takes_iff hbefore hp).mpr h))]
      have hall : processes = before ++ after := hsplit.eq_append
      refine ⟨before, after ++ [process], ?_, ?_⟩
      · rw [hbest]
        exact hsplit.concat process
      · rw [hbest, rising_concat, ← hall, run_concat]
        simp only [ht, false_or, run_rises_iff hbefore] at hnext
        by_cases hr : process.terminal = terminal ∧ IsNewer terminal processes process
        · rw [if_pos hr, standFor_concat]
          simpa only [hr, and_self, true_and] using hnext
        · rw [if_neg hr, List.append_nil]
          rwa [if_neg (fun h => hr h.1)] at hnext

end Scan

end LoginReport.Activity
