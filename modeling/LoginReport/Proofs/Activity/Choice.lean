import LoginReport.Proofs.Activity.StandIn
import LoginReport.Proofs.Machine

set_option autoImplicit false

/-!
# The choice of a process

What is found for a session. Where every process has a command, the first newest candidate is shown.
A command that is a dash cannot be told from none, so behind a best candidate with such a command
the newest process of the terminal is shown instead, whoever it belongs to.
-/

namespace LoginReport.Activity

/-- The process is of the login, or an eligible one of its owner. -/
def IsOwn (machine : Machine) (session : LoginSession) (process : ProcessRecord) : Prop :=
  process.leader = session.leader ∨ IsEligible machine session true process

instance (machine : Machine) (session : LoginSession) : DecidablePred (IsOwn machine session) :=
  fun _ => inferInstanceAs (Decidable (_ ∨ _))

/-- The process that is reported where the best candidate stands between others. -/
def reported (terminal : Int) (before : List ProcessRecord) (best : ProcessRecord)
    (after : List ProcessRecord) : ProcessRecord :=
  if best.command = ['-'] then (standIn? (rising terminal (before ++ [best]) after)).getD best
  else best

def askedOwner (machine : Machine) (session : LoginSession) (onlyOwner : Bool) : Option Int :=
  if onlyOwner then ownerOf machine session else none

def terminalTicksOf (terminal : Int) (processes : List ProcessRecord) : Int :=
  ((processes.filter fun process => process.terminal = terminal).map ProcessRecord.ticks).sum

section

variable {machine : Machine} {session : LoginSession} {onlyOwner : Bool}
  {processes : List ProcessRecord}

theorem ofSession_of_unknown (h : ownerOf machine session = none) :
    ofSession machine session processes true = { found := false } := by
  simp [ofSession, h]

theorem ofSession_eq_result (howner : onlyOwner = true → ownerOf machine session ≠ none) :
    ofSession machine session processes onlyOwner =
      (Scan.run (askedOwner machine session onlyOwner) (Terminal.number machine session.tty)
        session.leader processes).result := by
  cases onlyOwner with
  | false => rfl
  | true =>
    obtain ⟨uid, huid⟩ := Option.ne_none_iff_exists'.mp (howner rfl)
    simp [ofSession, askedOwner, huid]

theorem isForeground_iff (owner : Option Int) (process : ProcessRecord) :
    Scan.isForeground owner process = true ↔
      process.group = process.foreground ∧
        ∀ uid ∈ owner, uid = process.effective ∨ uid = process.real := by
  cases owner with
  | none => simp [Scan.isForeground]
  | some uid => simp [Scan.isForeground, and_comm]

theorem eligible_askedOwner (howner : onlyOwner = true → ownerOf machine session ≠ none) :
    Scan.eligible (askedOwner machine session onlyOwner) (Terminal.number machine session.tty) =
      fun process => decide (IsEligible machine session onlyOwner process) := by
  funext process
  rw [Bool.eq_iff_iff, decide_eq_true_iff, Scan.eligible, Bool.and_eq_true, beq_iff_eq,
    isForeground_iff, IsEligible]
  cases onlyOwner with
  | false => simp [askedOwner]
  | true =>
    obtain ⟨uid, huid⟩ := Option.ne_none_iff_exists'.mp (howner rfl)
    simp [askedOwner, huid]

theorem run_result_of_shows {owner : Option Int} {terminal leader : Int}
    {shown : Option ProcessRecord} (h : (Scan.run owner terminal leader processes).Shows shown) :
    (Scan.run owner terminal leader processes).result =
      showing (processes.any fun process => process.leader = leader)
        (terminalTicksOf terminal processes) shown := by
  rw [h, Scan.run_found, Scan.run_terminalTicks]
  rfl

theorem ofSession_shows (hpos : ∀ process ∈ processes, 0 < process.startTime)
    (howner : onlyOwner = true → ownerOf machine session ≠ none) :
    ∃ before after,
      SplitBehind processes before after
        (best? (IsEligible machine session onlyOwner ·) session.leader processes) ∧
      ofSession machine session processes onlyOwner =
        showing (processes.any fun process => process.leader = session.leader)
          (terminalTicksOf (Terminal.number machine session.tty) processes)
          (standFor (best? (IsEligible machine session onlyOwner ·) session.leader processes)
            (rising (Terminal.number machine session.tty) before after)) := by
  obtain ⟨before, after, hsplit, hshows⟩ := Scan.run_shows hpos
  rw [← eligible_askedOwner howner, ofSession_eq_result howner]
  exact ⟨before, after, hsplit, run_result_of_shows hshows⟩

theorem best?_of_login {eligible : ProcessRecord → Bool} {leader : Int}
    (h : ∃ process ∈ processes, process.leader = leader) :
    ∃ best, best? eligible leader processes = some best := by
  obtain ⟨process, hm, hl⟩ := h
  have hlogin : login? leader processes ≠ none := fun hno =>
    login?_eq_none_iff.mp hno process hm hl
  exact Option.ne_none_iff_exists'.mp fun hnone =>
    candidates_ne_nil_of_login hlogin (best?_eq_none_iff.mp hnone)

theorem ofSession_showing_best (hpos : ∀ process ∈ processes, 0 < process.startTime)
    (hcommand : ∀ process ∈ processes, process.command ≠ ['-'])
    (hlogin : ∃ process ∈ processes, process.leader = session.leader)
    (howner : onlyOwner = true → ownerOf machine session ≠ none) :
    ∃ best,
      best? (IsEligible machine session onlyOwner ·) session.leader processes = some best ∧
      ofSession machine session processes onlyOwner =
        showing true (terminalTicksOf (Terminal.number machine session.tty) processes)
          (some best) := by
  obtain ⟨best, hbest⟩ := best?_of_login hlogin
  obtain ⟨before, after, -, hshown⟩ := ofSession_shows hpos howner
  have hlacks : lacksCommand (some best) = false := by
    simpa [lacksCommand] using hcommand best (mem_of_best? hbest).1
  have hfound : (processes.any fun process => process.leader = session.leader) = true := by
    simpa using hlogin
  refine ⟨best, hbest, ?_⟩
  rw [hshown, hbest, standFor_of_command hlacks, hfound]

end

/-- Where every process has a command, the first newest candidate is shown. -/
theorem ofSession_eq_best (machine : Machine) (session : LoginSession)
    (processes : List ProcessRecord) (onlyOwner : Bool)
    (hpos : ∀ process ∈ processes, 0 < process.startTime)
    (hcommand : ∀ process ∈ processes, process.command ≠ ['-'])
    (hlogin : ∃ process ∈ processes, process.leader = session.leader)
    (howner : onlyOwner = true → ownerOf machine session ≠ none) :
    ∃ best,
      best? (IsEligible machine session onlyOwner ·) session.leader processes = some best ∧
      ofSession machine session processes onlyOwner =
        { found := true
          terminalTicks := terminalTicksOf (Terminal.number machine session.tty) processes
          ticks := best.ticks
          pid := best.pid
          command := best.command.take commandSize } := by
  obtain ⟨best, hbest, hshown⟩ := ofSession_showing_best hpos hcommand hlogin howner
  exact ⟨best, hbest, hshown⟩

theorem ofSession_newest_of_three :
    ofSession (Machine.bare.withTerminal 5) (.ofLeader 1000 100)
        [⟨100, 100, 1000, 1000, 5, 1, 2, 7, 50, ['s', 'h']⟩,
          ⟨202, 202, 1000, 0, 5, 7, 7, 11, 90, ['v', 'i']⟩,
          ⟨201, 201, 1000, 1000, 5, 7, 7, 2, 60, ['l', 's']⟩] true =
      { found := true, terminalTicks := 20, ticks := 11, pid := 202, command := ['v', 'i'] } := by
  obtain ⟨best, hbest, hshown⟩ :=
    ofSession_eq_best (Machine.bare.withTerminal 5) (.ofLeader 1000 100)
      [⟨100, 100, 1000, 1000, 5, 1, 2, 7, 50, ['s', 'h']⟩,
        ⟨202, 202, 1000, 0, 5, 7, 7, 11, 90, ['v', 'i']⟩,
        ⟨201, 201, 1000, 1000, 5, 7, 7, 2, 60, ['l', 's']⟩]
      true (by decide) (by decide) (by decide) (by decide)
  have hnewest : best = ⟨202, 202, 1000, 0, 5, 7, 7, 11, 90, ['v', 'i']⟩ :=
    Option.some.inj (hbest.symm.trans (by decide))
  rw [hshown, hnewest]
  decide

theorem standFor_some (terminal : Int) (before : List ProcessRecord) (best : ProcessRecord)
    (after : List ProcessRecord) :
    standFor (some best) (rising terminal (before ++ [best]) after) =
      some (reported terminal before best after) := by
  unfold standFor reported
  by_cases hc : best.command = ['-']
  · rw [if_pos hc, if_pos (by simpa [lacksCommand] using hc)]
    cases standIn? (rising terminal (before ++ [best]) after) <;> rfl
  · rw [if_neg hc, if_neg (by simpa [lacksCommand] using hc)]

/-- A session is shown by a process of its own, unless the best candidate's command is a dash and
what stands in behind it is none of its own. -/
theorem ofSession_own_iff (machine : Machine) (session : LoginSession)
    (processes : List ProcessRecord) (hpos : ∀ process ∈ processes, 0 < process.startTime)
    (hfound : (ofSession machine session processes true).found = true) :
    ∃ before best after,
      best? (IsEligible machine session true ·) session.leader processes = some best ∧
      processes = before ++ best :: after ∧ best ∉ before ∧
      ofSession machine session processes true =
        showing true (terminalTicksOf (Terminal.number machine session.tty) processes)
          (some (reported (Terminal.number machine session.tty) before best after)) ∧
      (IsOwn machine session (reported (Terminal.number machine session.tty) before best after) ↔
        best.command ≠ ['-'] ∨
          ∀ other ∈ standIn?
              (rising (Terminal.number machine session.tty) (before ++ [best]) after),
            IsOwn machine session other) := by
  have howner : true = true → ownerOf machine session ≠ none := by
    intro _ hnone
    rw [ofSession_of_unknown hnone] at hfound
    exact Bool.false_ne_true hfound
  obtain ⟨before, after, hsplit, hshown⟩ := ofSession_shows hpos howner
  have hany : (processes.any fun process => process.leader = session.leader) = true := by
    rw [hshown] at hfound
    revert hfound
    cases standFor _ _ <;> exact id
  have hlogin : ∃ process ∈ processes, process.leader = session.leader := by simpa using hany
  obtain ⟨best, hbest⟩ : ∃ best,
      best? (IsEligible machine session true ·) session.leader processes = some best :=
    best?_of_login hlogin
  rw [hbest] at hsplit
  obtain ⟨rfl, earlier, rfl, hearlier⟩ := hsplit
  refine ⟨earlier, best, after, hbest, by simp, hearlier, ?_, ?_⟩
  · rw [hshown, hbest, standFor_some, hany]
  · have hown : IsOwn machine session best := by
      have h := (mem_of_best? hbest).2
      rwa [decide_eq_true_iff] at h
    unfold reported
    by_cases hc : best.command = ['-']
    · rw [if_pos hc]
      cases standIn? (rising (Terminal.number machine session.tty) (earlier ++ [best]) after) with
      | none => simpa using hown
      | some other => simp [hc]
    · rw [if_neg hc]
      exact ⟨fun _ => Or.inl hc, fun _ => hown⟩

/-- A login process that has no terminal and a dash for a command, before another process. -/
def behindDash (process : ProcessRecord) : List ProcessRecord :=
  [⟨100, 100, 1000, 1000, 0, 1, -1, 7, 90, ['-']⟩, process]

theorem elder_stands_in :
    ∃ before best after, best.command = ['-'] ∧
      ofSession (Machine.bare.withTerminal 5) (.ofLeader 1000 100)
          (behindDash ⟨202, 202, 1000, 0, 5, 7, 7, 11, 60, ['v', 'i']⟩) true =
        showing true 11 (some (reported 5 before best after)) ∧
      IsOwn (Machine.bare.withTerminal 5) (.ofLeader 1000 100) (reported 5 before best after) := by
  obtain ⟨before, best, after, hbest, hsplit, hbefore, hshown, hown⟩ :=
    ofSession_own_iff (Machine.bare.withTerminal 5) (.ofLeader 1000 100)
      (behindDash ⟨202, 202, 1000, 0, 5, 7, 7, 11, 60, ['v', 'i']⟩) (by decide) (by decide)
  have hlogin : best = ⟨100, 100, 1000, 1000, 0, 1, -1, 7, 90, ['-']⟩ :=
    Option.some.inj (hbest.symm.trans (by decide))
  subst hlogin
  have hnone : before = [] := by
    cases before with
    | nil => rfl
    | cons first rest =>
      rw [behindDash, List.cons_append, List.cons.injEq] at hsplit
      exact absurd (hsplit.1 ▸ List.mem_cons_self) hbefore
  subst hnone
  rw [behindDash, List.nil_append, List.cons.injEq] at hsplit
  obtain ⟨-, rfl⟩ := hsplit
  exact ⟨[], _, _, rfl, hshown, hown.mpr (Or.inr (by decide))⟩

/-- An older process of another user in the background stands in as well, and no process of the
session is shown. -/
theorem stranger_stands_in :
    (∀ process ∈ behindDash ⟨300, 300, 0, 0, 5, 5, 9, 3, 60, ['c', 'r', 'o', 'n']⟩,
      0 < process.startTime) ∧
    (ofSession (Machine.bare.withTerminal 5) (.ofLeader 1000 100)
      (behindDash ⟨300, 300, 0, 0, 5, 5, 9, 3, 60, ['c', 'r', 'o', 'n']⟩) true).found = true ∧
    ¬∃ process ∈ behindDash ⟨300, 300, 0, 0, 5, 5, 9, 3, 60, ['c', 'r', 'o', 'n']⟩,
      IsOwn (Machine.bare.withTerminal 5) (.ofLeader 1000 100) process ∧
      ofSession (Machine.bare.withTerminal 5) (.ofLeader 1000 100)
        (behindDash ⟨300, 300, 0, 0, 5, 5, 9, 3, 60, ['c', 'r', 'o', 'n']⟩) true =
        showing true 3 (some process) := by
  decide

end LoginReport.Activity
