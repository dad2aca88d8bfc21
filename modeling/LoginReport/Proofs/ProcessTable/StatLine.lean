import LoginReport.ProcessTable.Stat
import LoginReport.Proofs.Results

set_option autoImplicit false

/-!
# What a status line tells

Six fields behind the name are read as numbers. Nothing else of the line can be refused.
-/

namespace LoginReport

namespace Stat

/-- The places of the fields that are read, counted from the one behind the name. -/
def places : List Nat := [2, 4, 5, 11, 12, 19]

/-- The field is there and is the numeral of this number. -/
def IsField (line : Bytes) (place : Nat) (value : Int) : Prop :=
  ∃ numeral, (Text.runs Text.isBlankByte (fieldBytes line))[place]? = some numeral ∧
    Numeral.ofBytes numeral = .ok value

def WellFormed (line : Bytes) : Prop := ∀ place ∈ places, ∃ value, IsField line place value

structure ShownBy (line : Bytes) (stat : Stat) : Prop where
  name : stat.name = Utf8.decode (nameBytes line)
  group : IsField line 2 stat.group
  terminal : IsField line 4 stat.terminal
  foreground : IsField line 5 stat.foreground
  userTicks : IsField line 11 stat.userTicks
  systemTicks : IsField line 12 stat.systemTicks
  startTicks : IsField line 19 stat.startTicks

variable {line : Bytes} {stat : Stat}

theorem field_eq_ok_iff {place : Nat} {value : Int} :
    field (Text.runs Text.isBlankByte (fieldBytes line)) place = .ok value ↔
      IsField line place value := by
  unfold field IsField
  cases (Text.runs Text.isBlankByte (fieldBytes line))[place]? with
  | none => simp
  | some numeral => simp [mapError_eq_ok]

theorem ofLine_eq_ok_iff : ofLine line = .ok stat ↔ ShownBy line stat := by
  simp only [ofLine, bind_eq_ok, pure_eq_ok, field_eq_ok_iff]
  constructor
  · rintro ⟨_, hgroup, _, hterminal, _, hforeground, _, huser, _, hsystem, _, hstart, rfl⟩
    exact ⟨rfl, hgroup, hterminal, hforeground, huser, hsystem, hstart⟩
  · intro h
    refine ⟨_, h.group, _, h.terminal, _, h.foreground, _, h.userTicks, _, h.systemTicks, _,
      h.startTicks, ?_⟩
    rw [← h.name]

theorem wellFormed_iff : WellFormed line ↔ ∃ stat, ofLine line = .ok stat := by
  simp only [ofLine_eq_ok_iff]
  constructor
  · intro h
    simp only [WellFormed, places, List.forall_mem_cons] at h
    obtain ⟨⟨group, hgroup⟩, ⟨terminal, hterminal⟩, ⟨foreground, hforeground⟩, ⟨user, huser⟩,
      ⟨system, hsystem⟩, ⟨start, hstart⟩, -⟩ := h
    exact ⟨⟨_, group, terminal, foreground, user, system, start⟩,
      rfl, hgroup, hterminal, hforeground, huser, hsystem, hstart⟩
  · rintro ⟨stat, h⟩
    simp only [WellFormed, places, List.forall_mem_cons]
    exact ⟨⟨_, h.group⟩, ⟨_, h.terminal⟩, ⟨_, h.foreground⟩, ⟨_, h.userTicks⟩,
      ⟨_, h.systemTicks⟩, ⟨_, h.startTicks⟩, List.forall_mem_nil _⟩

end Stat

end LoginReport
