import LoginReport.Proofs.Activity.Daemons

set_option autoImplicit false

/-!
# Processes of other sessions

A process belongs to a session if it leads the login or has the session's terminal. The others have
no part in what the session shows. What it shows is taken from one process that belongs to it, or it
shows nothing at all, and then the login is not found either. Times and commands do not matter.
-/

namespace LoginReport.Activity

def Belongs (machine : Machine) (session : LoginSession) (process : ProcessRecord) : Prop :=
  process.leader = session.leader ∨ process.terminal = Terminal.number machine session.tty

instance (machine : Machine) (session : LoginSession) :
    DecidablePred (Belongs machine session) := fun _ =>
  inferInstanceAs (Decidable (_ ∨ _))

/-- All that is shown is that of one process. -/
structure ShowsProcess (activity : Activity) (process : ProcessRecord) : Prop where
  pid : activity.pid = process.pid
  ticks : activity.ticks = process.ticks
  command : activity.command = process.command.take commandSize

structure ShowsNothing (activity : Activity) : Prop where
  found : activity.found = false
  pid : activity.pid = -1
  ticks : activity.ticks = 0
  command : activity.command = ['-']

namespace Scan

/-- The scan shows one of these processes. Before it does, there is no best time, so the first
process of the login would be shown. -/
def ShowsOneOf (own : ProcessRecord → Prop) (scan : Scan) : Prop :=
  (scan.Shows none ∧ scan.bestTime = 0 ∧ scan.found = false) ∨
    ∃ process, own process ∧ scan.Shows (some process)

variable {owner : Option Int} {terminal leader : Int} {scan : Scan} {process : ProcessRecord}
  {own other : ProcessRecord → Prop}

theorem ShowsOneOf.mono (h : ShowsOneOf own scan) (hown : ∀ process, own process → other process) :
    ShowsOneOf other scan := by
  rcases h with hnone | ⟨process, hprocess, hshows⟩
  · exact Or.inl hnone
  · exact Or.inr ⟨process, hown process hprocess, hshows⟩

theorem belongs_of_takes (h : Takes owner terminal leader scan process) :
    process.leader = leader ∨ process.terminal = terminal := by
  rcases h with ⟨hleader, -⟩ | ⟨heligible, -⟩
  · exact Or.inl hleader
  · rw [eligible, Bool.and_eq_true, beq_iff_eq] at heligible
    exact Or.inr heligible.1

/-- A step shows what was shown before, or its own process if that belongs to the session. -/
theorem step_shows_or (owner : Option Int) (terminal leader : Int) (process : ProcessRecord)
    {shown : Option ProcessRecord} (h : scan.Shows shown) :
    ((process.leader = leader ∨ process.terminal = terminal) ∧
        (step owner terminal leader scan process).Shows (some process)) ∨
      (¬Takes owner terminal leader scan process ∧
        (step owner terminal leader scan process).Shows shown) := by
  have hstep : (step owner terminal leader scan process).Shows _ := step_shows h
  split at hstep
  · rename_i hthis
    refine Or.inl ⟨?_, hstep⟩
    rcases hthis with htakes | ⟨⟨hterminal, -⟩, -⟩
    · exact belongs_of_takes htakes
    · exact Or.inr hterminal
  · rename_i hthis
    exact Or.inr ⟨fun htakes => hthis (Or.inl htakes), hstep⟩

/-- Where a step still shows nothing, it has not taken the process, which then leads no login. -/
theorem ShowsOneOf.step (h : ShowsOneOf own scan)
    (hown : process.leader = leader ∨ process.terminal = terminal → own process) :
    ShowsOneOf own (step owner terminal leader scan process) := by
  rcases h with ⟨hshows, hbest, hfound⟩ | ⟨shown, hshown, hshows⟩
  · rcases step_shows_or owner terminal leader process hshows with
      ⟨hbelongs, hstep⟩ | ⟨htakes, hstep⟩
    · exact Or.inr ⟨process, hown hbelongs, hstep⟩
    · have hleader : process.leader ≠ leader := fun hl => htakes (Or.inl ⟨hl, hbest⟩)
      refine Or.inl ⟨hstep, ?_, ?_⟩
      · rw [step_bestTime, if_neg htakes, hbest]
      · rw [step_found, hfound, Bool.false_or, decide_eq_false hleader]
  · rcases step_shows_or owner terminal leader process hshows with
      ⟨hbelongs, hstep⟩ | ⟨-, hstep⟩
    · exact Or.inr ⟨process, hown hbelongs, hstep⟩
    · exact Or.inr ⟨shown, hshown, hstep⟩

theorem showsOneOf_run (owner : Option Int) (terminal leader : Int)
    (processes : List ProcessRecord) :
    ShowsOneOf
      (fun process => process ∈ processes ∧
        (process.leader = leader ∨ process.terminal = terminal))
      (run owner terminal leader processes) := by
  induction processes using List.reverseRecOn with
  | nil => exact Or.inl ⟨rfl, rfl, rfl⟩
  | append_singleton processes process ih =>
    rw [run_concat]
    refine ShowsOneOf.step (ih.mono ?_) ?_
    · rintro other ⟨hmem, hbelongs⟩
      exact ⟨List.mem_append_left _ hmem, hbelongs⟩
    · intro hbelongs
      exact ⟨List.mem_append_right _ List.mem_cons_self, hbelongs⟩

theorem Shows.showsProcess (h : scan.Shows (some process)) : scan.result.ShowsProcess process := by
  rw [h]
  exact ⟨rfl, rfl, rfl⟩

theorem Shows.showsNothing (h : scan.Shows none) (hfound : scan.found = false) :
    scan.result.ShowsNothing := by
  rw [h, hfound]
  exact ⟨rfl, rfl, rfl, rfl⟩

end Scan

/-- Only the processes that belong to a session have a part in what it shows, and what it shows of
one of them is not mixed with another. -/
theorem shown_belongs (machine : Machine) (session : LoginSession) (onlyOwner : Bool) :
    (∀ processes others : List ProcessRecord,
      processes.filter (Belongs machine session ·) = others.filter (Belongs machine session ·) →
        ofSession machine session processes onlyOwner =
          ofSession machine session others onlyOwner) ∧
      ∀ processes : List ProcessRecord,
        (ofSession machine session processes onlyOwner).ShowsNothing ∨
          ∃ process ∈ processes, Belongs machine session process ∧
            (ofSession machine session processes onlyOwner).ShowsProcess process := by
  constructor
  · have hkept : ∀ processes : List ProcessRecord,
        ofSession machine session (processes.filter (Belongs machine session ·)) onlyOwner =
          ofSession machine session processes onlyOwner := by
      intro processes
      apply ofSession_filter
      intro process _ hforeign
      exact not_or.mp (of_decide_eq_false hforeign)
    intro processes others hsame
    rw [← hkept processes, ← hkept others, hsame]
  · intro processes
    by_cases howner : onlyOwner = true → ownerOf machine session ≠ none
    · rw [ofSession_eq_result howner]
      rcases Scan.showsOneOf_run _ _ _ processes with
        ⟨hshows, -, hfound⟩ | ⟨process, ⟨hmem, hbelongs⟩, hshows⟩
      · exact Or.inl (hshows.showsNothing hfound)
      · exact Or.inr ⟨process, hmem, hbelongs, hshows.showsProcess⟩
    · obtain ⟨rfl, hnone⟩ := Classical.not_imp.mp howner
      rw [ofSession_of_unknown (Classical.not_not.mp hnone)]
      exact Or.inl ⟨rfl, rfl, rfl, rfl⟩

/-- Around a login process of another user's number, which started before the clock, stand a process
without a terminal and one of another terminal. -/
theorem shown_belongs_among_strangers :
    [daemon 300 40, ⟨100, 100, 0, 0, 5, 1, 2, 7, -3, ['-']⟩,
        ⟨202, 202, 1000, 0, 6, 7, 7, 11, 90, ['v', 'i']⟩].filter
          (Belongs (Machine.bare.withTerminal 5) (.ofLeader 1000 100) ·) =
      [⟨100, 100, 0, 0, 5, 1, 2, 7, -3, ['-']⟩].filter
          (Belongs (Machine.bare.withTerminal 5) (.ofLeader 1000 100) ·) ∧
      ofSession (Machine.bare.withTerminal 5) (.ofLeader 1000 100)
          [daemon 300 40, ⟨100, 100, 0, 0, 5, 1, 2, 7, -3, ['-']⟩,
            ⟨202, 202, 1000, 0, 6, 7, 7, 11, 90, ['v', 'i']⟩] true =
        ofSession (Machine.bare.withTerminal 5) (.ofLeader 1000 100)
          [⟨100, 100, 0, 0, 5, 1, 2, 7, -3, ['-']⟩] true := by
  have hsame : [daemon 300 40, ⟨100, 100, 0, 0, 5, 1, 2, 7, -3, ['-']⟩,
        ⟨202, 202, 1000, 0, 6, 7, 7, 11, 90, ['v', 'i']⟩].filter
          (Belongs (Machine.bare.withTerminal 5) (.ofLeader 1000 100) ·) =
      [⟨100, 100, 0, 0, 5, 1, 2, 7, -3, ['-']⟩].filter
          (Belongs (Machine.bare.withTerminal 5) (.ofLeader 1000 100) ·) := by decide
  exact ⟨hsame, (shown_belongs _ _ true).1 _ _ hsame⟩

end LoginReport.Activity
