import LoginReport.Proofs.Activity.Choice
import Mathlib.Algebra.BigOperators.Group.List.Basic
import Mathlib.Algebra.Group.Int.Defs
import Mathlib.Data.List.Nodup

set_option autoImplicit false

/-!
# The order of the process table

Whether the login is found and how many ticks its terminal has do not depend on the order of the
table. What is shown does not either, where the newest of the login process and the eligible
processes is the only newest one and every process has a command.
-/

namespace LoginReport.Activity

/-- The eligible processes started at different times, after the login process. -/
structure IsSettled (machine : Machine) (session : LoginSession) (onlyOwner : Bool)
    (processes : List ProcessRecord) : Prop where
  leaders : (processes.map ProcessRecord.leader).Nodup
  positive : ∀ process ∈ processes, 0 < process.startTime
  command : ∀ process ∈ processes, process.command ≠ ['-']
  login : ∃ process ∈ processes, process.leader = session.leader
  apart : ((processes.filter (IsEligible machine session onlyOwner ·)).map
    ProcessRecord.startTime).Nodup
  later : ∀ process ∈ processes, IsEligible machine session onlyOwner process →
    process.leader ≠ session.leader → ∀ login ∈ processes, login.leader = session.leader →
      login.startTime < process.startTime

section

variable {machine : Machine} {session : LoginSession} {onlyOwner : Bool}
  {processes others : List ProcessRecord}

theorem IsSettled.perm (h : IsSettled machine session onlyOwner processes)
    (hp : processes.Perm others) : IsSettled machine session onlyOwner others where
  leaders := (hp.map _).nodup_iff.mp h.leaders
  positive := fun process hm => h.positive process (hp.mem_iff.mpr hm)
  command := fun process hm => h.command process (hp.mem_iff.mpr hm)
  login := by
    obtain ⟨process, hm, hl⟩ := h.login
    exact ⟨process, hp.mem_iff.mp hm, hl⟩
  apart := ((hp.filter _).map _).nodup_iff.mp h.apart
  later := fun process hm he hl login hlogin =>
    h.later process (hp.mem_iff.mpr hm) he hl login (hp.mem_iff.mpr hlogin)

/-- In a settled table the best candidate is newer than any other one. -/
theorem IsSettled.lt_best (h : IsSettled machine session onlyOwner processes)
    {best process : ProcessRecord}
    (hbest : best? (IsEligible machine session onlyOwner ·) session.leader processes = some best)
    (hm : process ∈ processes)
    (hown : process.leader = session.leader ∨ IsEligible machine session onlyOwner process)
    (hne : process ≠ best) : process.startTime < best.startTime := by
  obtain ⟨hbestmem, hbestown⟩ := mem_of_best? hbest
  rw [decide_eq_true_iff] at hbestown
  have hlogin : process.leader = session.leader → best.leader = session.leader →
      process = best := fun hl hb =>
    List.inj_on_of_nodup_map h.leaders hm hbestmem (hl.trans hb.symm)
  by_cases he : IsEligible machine session onlyOwner process
  · have hle : process.startTime ≤ best.startTime := le_best? hbest hm (decide_eq_true he)
    by_cases hbe : IsEligible machine session onlyOwner best
    · have happart : process.startTime ≠ best.startTime := fun hs =>
        hne (List.inj_on_of_nodup_map h.apart
          (List.mem_filter.mpr ⟨hm, decide_eq_true he⟩)
          (List.mem_filter.mpr ⟨hbestmem, decide_eq_true hbe⟩) hs)
      omega
    · have hbl : best.leader = session.leader := hbestown.resolve_right hbe
      have hlt := h.later process hm he (fun hl => hne (hlogin hl hbl)) best hbestmem hbl
      omega
  · have hl : process.leader = session.leader := hown.resolve_right he
    have hbl : best.leader ≠ session.leader := fun hb => hne (hlogin hl hb)
    exact h.later best hbestmem (hbestown.resolve_left hbl) hbl process hm hl

theorem IsSettled.best_eq (h : IsSettled machine session onlyOwner processes)
    (hp : processes.Perm others) {best other : ProcessRecord}
    (hbest : best? (IsEligible machine session onlyOwner ·) session.leader processes = some best)
    (hother : best? (IsEligible machine session onlyOwner ·) session.leader others = some other) :
    best = other := by
  obtain ⟨hbm, hbo⟩ := mem_of_best? hbest
  obtain ⟨hom, hoo⟩ := mem_of_best? hother
  rw [decide_eq_true_iff] at hbo hoo
  by_contra hne
  have hlt := h.lt_best hbest (hp.mem_iff.mpr hom) hoo (Ne.symm hne)
  have hgt := (h.perm hp).lt_best hother (hp.mem_iff.mp hbm) hbo hne
  omega

theorem terminalTicksOf_perm (terminal : Int) (hp : processes.Perm others) :
    terminalTicksOf terminal processes = terminalTicksOf terminal others :=
  ((hp.filter _).map _).sum_eq

theorem ofSession_found (howner : onlyOwner = true → ownerOf machine session ≠ none) :
    (ofSession machine session processes onlyOwner).found =
      processes.any fun process => process.leader = session.leader := by
  rw [ofSession_eq_result howner]
  exact Scan.run_found _ _ _ _

theorem ofSession_terminalTicks (howner : onlyOwner = true → ownerOf machine session ≠ none) :
    (ofSession machine session processes onlyOwner).terminalTicks =
      terminalTicksOf (Terminal.number machine session.tty) processes := by
  rw [ofSession_eq_result howner]
  exact Scan.run_terminalTicks _ _ _ _

end

theorem ofSession_perm (machine : Machine) (session : LoginSession) (onlyOwner : Bool)
    {processes others : List ProcessRecord} (hp : processes.Perm others) :
    (ofSession machine session processes onlyOwner).found =
        (ofSession machine session others onlyOwner).found ∧
      (ofSession machine session processes onlyOwner).terminalTicks =
        (ofSession machine session others onlyOwner).terminalTicks ∧
      (IsSettled machine session onlyOwner processes →
        ofSession machine session processes onlyOwner =
          ofSession machine session others onlyOwner) := by
  by_cases howner : onlyOwner = true → ownerOf machine session ≠ none
  · have hticks := terminalTicksOf_perm (Terminal.number machine session.tty) hp
    refine ⟨?_, ?_, ?_⟩
    · rw [ofSession_found howner, ofSession_found howner, hp.any_eq]
    · rw [ofSession_terminalTicks howner, ofSession_terminalTicks howner, hticks]
    · intro h
      have ho := h.perm hp
      obtain ⟨best, hbest, hshown⟩ :=
        ofSession_showing_best h.positive h.command h.login howner
      obtain ⟨other, hother, hothers⟩ :=
        ofSession_showing_best ho.positive ho.command ho.login howner
      rw [hshown, hothers, h.best_eq hp hbest hother, hticks]
  · obtain ⟨rfl, hnone⟩ := Classical.not_imp.mp howner
    have hnone := Classical.not_not.mp hnone
    rw [ofSession_of_unknown hnone, ofSession_of_unknown hnone]
    exact ⟨rfl, rfl, fun _ => rfl⟩

theorem ofSession_three_reversed :
    ofSession (Machine.bare.withTerminal 5) (.ofLeader 1000 100)
        [⟨100, 100, 1000, 1000, 5, 1, 2, 7, 50, ['s', 'h']⟩,
          ⟨201, 201, 1000, 1000, 5, 7, 7, 2, 60, ['l', 's']⟩,
          ⟨202, 202, 1000, 0, 5, 7, 7, 11, 90, ['v', 'i']⟩] true =
      ofSession (Machine.bare.withTerminal 5) (.ofLeader 1000 100)
        [⟨202, 202, 1000, 0, 5, 7, 7, 11, 90, ['v', 'i']⟩,
          ⟨201, 201, 1000, 1000, 5, 7, 7, 2, 60, ['l', 's']⟩,
          ⟨100, 100, 1000, 1000, 5, 1, 2, 7, 50, ['s', 'h']⟩] true :=
  (ofSession_perm (Machine.bare.withTerminal 5) (.ofLeader 1000 100) true (by decide)).2.2
    { leaders := by decide
      positive := by decide
      command := by decide
      login := by decide
      apart := by decide
      later := by decide }

end LoginReport.Activity
