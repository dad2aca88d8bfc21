import LoginReport.Proofs.Activity.Order

set_option autoImplicit false

/-!
# Processes of any owner

Where the owner is not asked for, more processes may be promoted, and nothing else changes. The
login is found and the ticks are added up as they are for an owner with a number. What is shown
differs only by a process of the terminal that belongs to somebody else.
-/

namespace LoginReport.Activity

namespace Scan

variable {owner other : Option Int} {terminal leader : Int} {scan : Scan} {process : ProcessRecord}

theorem isForeground_of_owned {uid : Int} (h : uid = process.effective ∨ uid = process.real) :
    isForeground (some uid) process = isForeground none process := by
  rw [Bool.eq_iff_iff, isForeground_iff, isForeground_iff]
  simpa using fun _ => h

theorem promote_congr (h : isForeground owner process = isForeground other process) :
    promote owner scan process = promote other scan process := by
  rw [promote, promote, h]

theorem step_congr (h : process.terminal = terminal →
    isForeground owner process = isForeground other process) :
    step owner terminal leader scan process = step other terminal leader scan process := by
  by_cases hterminal : process.terminal = terminal
  · rw [step_of_terminal hterminal, step_of_terminal hterminal, promote_congr (h hterminal)]
  · rw [step_of_elsewhere hterminal, step_of_elsewhere hterminal]

/-- Two passes that judge the processes of the terminal alike stay together to the end. -/
theorem run_congr {processes : List ProcessRecord}
    (h : ∀ process ∈ processes, process.terminal = terminal →
      isForeground owner process = isForeground other process) :
    run owner terminal leader processes = run other terminal leader processes := by
  induction processes using List.reverseRecOn with
  | nil => rfl
  | append_singleton processes last ih =>
    have hbefore := ih fun process hprocess => h process (List.mem_append_left _ hprocess)
    rw [run_concat, run_concat, hbefore]
    apply step_congr
    exact h last (List.mem_append_right _ List.mem_cons_self)

end Scan

variable {machine : Machine} {session : LoginSession} {processes : List ProcessRecord}

theorem IsEligible.anyone {process : ProcessRecord}
    (h : IsEligible machine session true process) : IsEligible machine session false process := by
  obtain ⟨hterminal, hforeground, -⟩ := h
  refine ⟨hterminal, hforeground, ?_⟩
  intro hasked
  cases hasked

theorem owner_ne_none_of_found
    (h : (ofSession machine session processes true).found = true) :
    ownerOf machine session ≠ none := by
  intro hnone
  rw [ofSession_of_unknown hnone] at h
  cases h

theorem found_anyone (howner : ownerOf machine session ≠ none) :
    (ofSession machine session processes true).found =
      (ofSession machine session processes false).found := by
  rw [ofSession_found fun _ => howner, ofSession_found fun _ => howner]

theorem terminalTicks_anyone (howner : ownerOf machine session ≠ none) :
    (ofSession machine session processes true).terminalTicks =
      (ofSession machine session processes false).terminalTicks := by
  rw [ofSession_terminalTicks fun _ => howner, ofSession_terminalTicks fun _ => howner]

theorem ofSession_anyone {uid : Int} (howner : ownerOf machine session = some uid)
    (howned : ∀ process ∈ processes, process.terminal = Terminal.number machine session.tty →
      uid = process.effective ∨ uid = process.real) :
    ofSession machine session processes true = ofSession machine session processes false := by
  have hknown : true = true → ownerOf machine session ≠ none := by simp [howner]
  have hrun : Scan.run (some uid) (Terminal.number machine session.tty) session.leader processes =
      Scan.run none (Terminal.number machine session.tty) session.leader processes := by
    apply Scan.run_congr
    intro process hprocess hterminal
    exact Scan.isForeground_of_owned (howned process hprocess hterminal)
  rw [ofSession_eq_result hknown, askedOwner, if_pos rfl, howner, hrun]
  rfl

/-- Without regard to the owner there are more processes to choose from. What is found and added up
is the same, and so is all that is shown where the terminal has no process of another user. -/
theorem ofSession_widened (machine : Machine) (session : LoginSession)
    (processes : List ProcessRecord) :
    (∀ process, IsEligible machine session true process →
        IsEligible machine session false process) ∧
      ((ofSession machine session processes true).found = true →
        (ofSession machine session processes false).found = true ∧
          (ofSession machine session processes true).terminalTicks =
            (ofSession machine session processes false).terminalTicks) ∧
      ∀ uid, ownerOf machine session = some uid →
        (ofSession machine session processes true).found =
            (ofSession machine session processes false).found ∧
          (ofSession machine session processes true).terminalTicks =
            (ofSession machine session processes false).terminalTicks ∧
          ((∀ process ∈ processes,
              process.terminal = Terminal.number machine session.tty →
                uid = process.effective ∨ uid = process.real) →
            ofSession machine session processes true =
              ofSession machine session processes false) := by
  refine ⟨fun process => IsEligible.anyone, ?_, ?_⟩
  · intro hfound
    have howner := owner_ne_none_of_found hfound
    rw [found_anyone howner] at hfound
    exact ⟨hfound, terminalTicks_anyone howner⟩
  · intro uid huid
    have howner : ownerOf machine session ≠ none := by simp [huid]
    exact ⟨found_anyone howner, terminalTicks_anyone howner, ofSession_anyone huid⟩

/-- Two processes of the owner, of which one runs with the rights of another user, and a newer one
of that user on another terminal. -/
def besideStranger : List ProcessRecord :=
  [⟨100, 100, 1000, 1000, 5, 1, 2, 7, 50, ['s', 'h']⟩,
    ⟨202, 202, 0, 1000, 5, 7, 7, 11, 60, ['s', 'u']⟩,
    ⟨300, 300, 0, 0, 6, 8, 8, 3, 90, ['v', 'i']⟩]

theorem ofSession_widened_beside_stranger :
    (ofSession (Machine.bare.withTerminal 5) (.ofLeader 1000 100) besideStranger true).found =
        true ∧
      ownerOf (Machine.bare.withTerminal 5) (.ofLeader 1000 100) = some 1000 ∧
      (∀ process ∈ besideStranger,
        process.terminal = Terminal.number (Machine.bare.withTerminal 5) ['1'] →
          1000 = process.effective ∨ 1000 = process.real) ∧
      ofSession (Machine.bare.withTerminal 5) (.ofLeader 1000 100) besideStranger true =
        ofSession (Machine.bare.withTerminal 5) (.ofLeader 1000 100) besideStranger false ∧
      (ofSession (Machine.bare.withTerminal 5) (.ofLeader 1000 100) besideStranger false).found =
        true := by
  obtain ⟨-, hfound, hknown⟩ :=
    ofSession_widened (Machine.bare.withTerminal 5) (.ofLeader 1000 100) besideStranger
  obtain ⟨-, -, hsame⟩ := hknown 1000 rfl
  exact ⟨by decide, rfl, by decide, hsame (by decide), (hfound (by decide)).1⟩

end LoginReport.Activity
