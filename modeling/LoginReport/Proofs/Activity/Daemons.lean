import LoginReport.Proofs.Activity.Order
import LoginReport.Proofs.Session.RoundTrip

set_option autoImplicit false

/-!
# Processes without a terminal

A process without a terminal has the number zero in its place, so it stays out of every session
whose terminal has another number. Only a path that leads to no terminal at all has the number zero:
the numbers of paths are taken as they are, while in the usual places only terminals count.
-/

namespace LoginReport

/-- Every character device has a number of its own, so none has the number of no terminal. -/
def Machine.NumbersTerminals (machine : Machine) : Prop :=
  ∀ path device, machine.device path = some device → device.isCharacter = true →
    device.number ≠ 0

namespace Terminal

/-- The name is a path to a device without a number, such as a directory. -/
def LeadsNowhere (machine : Machine) (name : Text) : Prop :=
  isAbsolute name = true ∧ ∃ device, machine.device name = some device ∧ device.number = 0

variable {machine : Machine} {name : Text}

theorem absoluteDevice_eq_some_iff {number : Int} :
    absoluteDevice machine name = some number ↔
      isAbsolute name = true ∧ ∃ device, machine.device name = some device ∧
        device.number = number := by
  unfold absoluteDevice
  by_cases habsolute : isAbsolute name = true
  · simp [habsolute]
  · simp [habsolute]

theorem characterDevice_ne_zero (hnumbers : machine.NumbersTerminals) {path : Text} {number : Int}
    (h : characterDevice machine path = some number) : number ≠ 0 := by
  unfold characterDevice at h
  split at h
  · rename_i device hdevice
    split at h
    · rename_i hcharacter
      obtain rfl := Option.some.inj h
      exact hnumbers path device hdevice hcharacter
    · cases h
  · cases h

/-- In the usual places there is a terminal, or none is found. -/
theorem placed_ne_zero (hnumbers : machine.NumbersTerminals) (name : Text) :
    ((paths name).findSome? (characterDevice machine)).getD missing ≠ 0 := by
  cases hplaced : (paths name).findSome? (characterDevice machine) with
  | none => decide
  | some number =>
    obtain ⟨path, -, hpath⟩ := List.exists_of_findSome?_eq_some hplaced
    exact characterDevice_ne_zero hnumbers hpath

theorem number_eq_zero_iff (hnumbers : machine.NumbersTerminals) :
    number machine name = 0 ↔ LeadsNowhere machine name := by
  unfold LeadsNowhere
  rw [← absoluteDevice_eq_some_iff]
  unfold number
  cases absoluteDevice machine name with
  | some number => simp
  | none => simpa using placed_ne_zero hnumbers name

end Terminal

namespace Activity

/-- Processes that are passed over by every step of a scan might as well not be there. -/
theorem Scan.run_filter {owner : Option Int} {terminal leader : Int} {kept : ProcessRecord → Bool}
    {processes : List ProcessRecord}
    (hkept : ∀ process ∈ processes, kept process = false →
      process.leader ≠ leader ∧ process.terminal ≠ terminal) :
    run owner terminal leader (processes.filter kept) = run owner terminal leader processes := by
  induction processes using List.reverseRecOn with
  | nil => rfl
  | append_singleton processes process ih =>
    have hbefore := ih fun other hother => hkept other (List.mem_append_left _ hother)
    rw [List.filter_append, run_concat]
    cases hthis : kept process with
    | true =>
      rw [List.filter_cons_of_pos hthis, List.filter_nil, run_concat, hbefore]
    | false =>
      obtain ⟨hleader, hterminal⟩ := hkept process (by simp) hthis
      rw [List.filter_cons_of_neg (by simp [hthis]), List.filter_nil, List.append_nil, hbefore,
        step_of_foreign owner terminal leader _ process hleader hterminal]

variable {machine : Machine} {session : LoginSession}

/-- What a session shows does not hang on what its scan passes over. -/
theorem ofSession_filter {kept : ProcessRecord → Bool} {processes : List ProcessRecord}
    (onlyOwner : Bool) (hkept : ∀ process ∈ processes, kept process = false →
      process.leader ≠ session.leader ∧ process.terminal ≠ Terminal.number machine session.tty) :
    ofSession machine session (processes.filter kept) onlyOwner =
      ofSession machine session processes onlyOwner := by
  by_cases howner : onlyOwner = true → ownerOf machine session ≠ none
  · rw [ofSession_eq_result howner, ofSession_eq_result howner, Scan.run_filter hkept]
  · obtain ⟨rfl, hnone⟩ := Classical.not_imp.mp howner
    have hnone := Classical.not_not.mp hnone
    rw [ofSession_of_unknown hnone, ofSession_of_unknown hnone]

/-- Processes without a terminal have no part in what is shown for a session: the others may be left
out, the login process is shown as such at most, and none of them is counted. -/
structure PassesDaemons (machine : Machine) (session : LoginSession) : Prop where
  others : ∀ processes onlyOwner,
    ofSession machine session
        (processes.filter fun process =>
          process.terminal ≠ 0 ∨ process.leader = session.leader) onlyOwner =
      ofSession machine session processes onlyOwner
  login : ∀ owner scan process, process.terminal = 0 →
    Scan.step owner (Terminal.number machine session.tty) session.leader scan process =
      Scan.seed session.leader scan process
  ticks : ∀ processes onlyOwner,
    (ofSession machine session
        (processes.filter fun process => process.terminal ≠ 0) onlyOwner).terminalTicks =
      (ofSession machine session processes onlyOwner).terminalTicks

theorem terminalTicksOf_filter {terminal : Int} (h : terminal ≠ 0)
    (processes : List ProcessRecord) :
    terminalTicksOf terminal (processes.filter fun process => process.terminal ≠ 0) =
      terminalTicksOf terminal processes := by
  unfold terminalTicksOf
  rw [List.filter_filter]
  congr 3
  funext process
  by_cases hterminal : process.terminal = terminal <;> simp [hterminal, h]

theorem passesDaemons_of_ne_zero (h : Terminal.number machine session.tty ≠ 0) :
    PassesDaemons machine session where
  others := by
    intro processes onlyOwner
    apply ofSession_filter
    intro process _ hleft
    obtain ⟨hterminal, hleader⟩ : process.terminal = 0 ∧ process.leader ≠ session.leader := by
      simpa using hleft
    refine ⟨hleader, ?_⟩
    rw [hterminal]
    exact h.symm
  login := by
    intro owner scan process hprocess
    apply Scan.step_of_elsewhere
    rw [hprocess]
    exact h.symm
  ticks := by
    intro processes onlyOwner
    by_cases howner : onlyOwner = true → ownerOf machine session ≠ none
    · rw [ofSession_terminalTicks howner, ofSession_terminalTicks howner, terminalTicksOf_filter h]
    · obtain ⟨rfl, hnone⟩ := Classical.not_imp.mp howner
      have hnone := Classical.not_not.mp hnone
      rw [ofSession_of_unknown hnone, ofSession_of_unknown hnone]

/-- A process without a terminal, in a process group of its own. -/
def daemon (pid ticks : Int) : ProcessRecord where
  pid := pid
  leader := pid
  effective := 0
  real := 0
  terminal := 0
  group := pid
  foreground := -1
  ticks := ticks
  startTime := 1
  command := ['d']

theorem PassesDaemons.number_ne_zero (h : PassesDaemons machine session) :
    Terminal.number machine session.tty ≠ 0 := by
  intro hzero
  have hticks := h.ticks [daemon 1 1] false
  rw [ofSession_terminalTicks (by simp), ofSession_terminalTicks (by simp), hzero] at hticks
  cases hticks

/-- Processes without a terminal stay out of every session but those whose terminal is a path to a
device without a number. -/
theorem daemons_passed_iff (machine : Machine) (session : LoginSession)
    (hnumbers : machine.NumbersTerminals) :
    (Terminal.number machine session.tty ≠ 0 ↔
        ¬Terminal.LeadsNowhere machine session.tty) ∧
      (PassesDaemons machine session ↔ ¬Terminal.LeadsNowhere machine session.tty) := by
  have hnumber : Terminal.number machine session.tty ≠ 0 ↔
      ¬Terminal.LeadsNowhere machine session.tty :=
    not_congr (Terminal.number_eq_zero_iff hnumbers)
  refine ⟨hnumber, ?_, ?_⟩
  · intro h
    exact hnumber.mp h.number_ne_zero
  · intro h
    exact passesDaemons_of_ne_zero (hnumber.mpr h)

theorem numbersTerminals_withTerminal {number : Int} (h : number ≠ 0) (machine : Machine) :
    (machine.withTerminal number).NumbersTerminals := by
  intro path device hdevice _
  obtain rfl := Option.some.inj hdevice
  exact h

theorem daemons_passed_beside_login :
    (Machine.bare.withTerminal 5).NumbersTerminals ∧
      ¬Terminal.LeadsNowhere (Machine.bare.withTerminal 5) ['1'] ∧
      PassesDaemons (Machine.bare.withTerminal 5) (.ofLeader 1000 100) ∧
      ofSession (Machine.bare.withTerminal 5) (.ofLeader 1000 100)
          [⟨100, 100, 1000, 1000, 5, 1, 2, 7, 50, ['s', 'h']⟩, daemon 300 40] true =
        { found := true, terminalTicks := 7, ticks := 7, pid := 100, command := ['s', 'h'] } := by
  have hnumbers : (Machine.bare.withTerminal 5).NumbersTerminals :=
    numbersTerminals_withTerminal (by decide) _
  obtain ⟨hnumber, hpasses⟩ :=
    daemons_passed_iff (Machine.bare.withTerminal 5) (.ofLeader 1000 100) hnumbers
  have hleads : ¬Terminal.LeadsNowhere (Machine.bare.withTerminal 5) ['1'] :=
    hnumber.mp (by decide)
  exact ⟨hnumbers, hleads, hpasses.mpr hleads, by decide⟩

end Activity

/-- A login on the root directory, which is a path of terminal letters as any other. -/
def RecordFile.rootRecord : LoginRecord :=
  { bootRecord with
    kind := 7
    pid := 100
    line := zeroFilled [0x2f] }

def Machine.withLoginOnRoot : Machine :=
  { Machine.bare.withFiles [(RecordFile.defaultPath, RecordFile.rootRecord.encode)] with
    device := fun path => if path = ['/'] then some ⟨false, 0, .zero⟩ else none
    userId := fun _ => some 1000 }

/-- All the processes without a terminal are counted for the login on the directory. -/
theorem Activity.daemons_counted_on_directory :
    Machine.withLoginOnRoot.NumbersTerminals ∧
      ((SessionSource.ofMachine Machine.withLoginOnRoot).listing
          Machine.withLoginOnRoot).sessions = [RecordFile.session RecordFile.rootRecord.encode] ∧
      (RecordFile.session RecordFile.rootRecord.encode).tty = ['/'] ∧
      Terminal.number Machine.withLoginOnRoot ['/'] = 0 ∧
      ofSession Machine.withLoginOnRoot (RecordFile.session RecordFile.rootRecord.encode)
          [daemon 100 7, daemon 300 40] true =
        { found := true, terminalTicks := 47, ticks := 7, pid := 100, command := ['d'] } := by
  refine ⟨?_, by decide +kernel, by decide +kernel, by decide, by decide +kernel⟩
  intro path device hdevice hcharacter
  by_cases hroot : path = ['/']
  · obtain rfl : ⟨false, 0, .zero⟩ = device := by
      simpa [Machine.withLoginOnRoot, hroot] using hdevice
    cases hcharacter
  · simp [Machine.withLoginOnRoot, hroot] at hdevice

end LoginReport
