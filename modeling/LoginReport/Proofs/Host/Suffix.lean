import LoginReport.Proofs.Host.Width

set_option autoImplicit false

/-!
# Displays and interfaces

What is shown of the display or interface in a host field. It begins in the printable bytes at the
beginning of the field: one colon opens a display, and behind two of them a percent sign opens the
name of an interface. The visible bytes from there on are shown, and a dash for the first that is
not. Bytes that are missing are as good as zeros.
-/

namespace LoginReport.HostField

/-- The place in a printable text where the display or interface begins. -/
inductive BeginsAt (text : Bytes) (start : Nat) : Prop where
  | display (hone : text.count colon = 1) (hstart : text[start]? = some colon)
  | interface (hbehind : 2 ≤ (text.take start).count colon) (hstart : text[start]? = some percent)
      (hfirst : ∀ earlier < start, 2 ≤ (text.take earlier).count colon →
        text[earlier]? ≠ some percent)

variable {target : UInt8} {field found text : Bytes}

/-- By the bytes before the target, all of which are printable. -/
theorem seek_eq_some (h : seek target field = some found) :
    ∃ before tail, field = before ++ target :: tail ∧ found = target :: tail ∧ target ∉ before ∧
      ∀ b ∈ before, isPrintable b = true := by
  induction field with
  | nil => cases h
  | cons b rest ih =>
    rw [seek] at h
    split at h
    · rename_i hb
      obtain rfl := Option.some.inj h
      exact ⟨[], rest, by rw [hb]; rfl, by rw [hb], List.not_mem_nil, List.forall_mem_nil _⟩
    · rename_i hb
      split at h
      · rename_i hprintable
        obtain ⟨before, tail, rfl, rfl, hbefore, hall⟩ := ih h
        refine ⟨b :: before, tail, rfl, rfl, ?_, List.forall_mem_cons.mpr ⟨hprintable, hall⟩⟩
        rw [List.mem_cons, not_or]
        exact ⟨Ne.symm hb, hbefore⟩
      · cases h

/-- A character that occurs once has one place. -/
theorem place_unique {place other : Nat} (hcount : text.count target = 1)
    (hplace : text[place]? = some target) (hother : text[other]? = some target) :
    ¬place < other := by
  intro hlt
  have hbefore : target ∈ text.take other := by
    apply List.mem_of_getElem?
    rw [List.getElem?_take_of_lt hlt, hplace]
  have hbehind : target ∈ text.drop other := by
    apply List.mem_of_getElem?
    rw [List.getElem?_drop, Nat.add_zero, hother]
  have hsum : text.count target =
      (text.take other).count target + (text.drop other).count target := by
    rw [← List.count_append, List.take_append_drop]
  have hone : 1 ≤ (text.take other).count target := List.one_le_count_iff.mpr hbefore
  have htwo : 1 ≤ (text.drop other).count target := List.one_le_count_iff.mpr hbehind
  omega

theorem BeginsAt.not_lt {start other : Nat} (hstart : BeginsAt text start)
    (hother : BeginsAt text other) : ¬start < other := by
  have hpart : ∀ place, (text.take place).count colon ≤ text.count colon :=
    fun place => (List.take_sublist place text).count_le colon
  rcases hstart with ⟨hone, hcolon⟩ | ⟨hbehind, hpercent, -⟩
  · rcases hother with ⟨-, hothers⟩ | ⟨hbehind, -, -⟩
    · exact place_unique hone hcolon hothers
    · have hle := hpart other
      omega
  · rcases hother with ⟨hone, -⟩ | ⟨-, -, hfirst⟩
    · have hle := hpart start
      omega
    · intro hlt
      exact hfirst start hlt hbehind hpercent

theorem BeginsAt.unique {start other : Nat} (hstart : BeginsAt text start)
    (hother : BeginsAt text other) : start = other := by
  have hle := hstart.not_lt hother
  have hge := hother.not_lt hstart
  omega

/-! ## The column -/

end LoginReport.HostField
