import LoginReport.Proofs.Text.Ascii
import LoginReport.Text.Plain
import Mathlib.Tactic.SplitIfs

set_option autoImplicit false

/-!
# Control characters

Printable text has none. Printing takes control sequences and carriage returns out of a line, but
never a line feed, so a line is printed on one line more than it has line feeds.
-/

namespace LoginReport.Text

def IsControl (c : Char) : Prop := c.toNat < 0x20 ∨ c.toNat = 0x7f

instance (c : Char) : Decidable (IsControl c) :=
  inferInstanceAs (Decidable (c.toNat < 0x20 ∨ c.toNat = 0x7f))

theorem Printable.not_mem {s : Text} (h : Printable s) {c : Char} (hc : IsControl c) : c ∉ s := by
  intro hmem
  obtain ⟨hlow, hhigh⟩ := h c hmem
  rcases hc with hc | hc <;> omega

theorem isControl_newline : IsControl '\n' := Or.inl (by decide)

/-! ## Control sequences -/

theorem not_mem_take_takeWhile {p : Char → Bool} {c : Char} (hc : p c = false) (s : Text) :
    c ∉ s.take (s.takeWhile p).length := by
  intro hmem
  rw [← List.prefix_iff_eq_take.mp (List.takeWhile_prefix p)] at hmem
  have hp := List.all_eq_true.mp List.all_takeWhile c hmem
  rw [hc] at hp
  cases hp

/-- What follows the opening bracket: parameters, intermediates and a final character. -/
theorem not_mem_take_body (rest : Text) (last : Char) (more : Text)
    (hlast : isFinal last = true)
    (hbody : rest.drop ((rest.takeWhile isParameter).length +
      ((rest.drop (rest.takeWhile isParameter).length).takeWhile isIntermediate).length) =
        last :: more) :
    '\n' ∉ rest.take ((rest.takeWhile isParameter).length +
      ((rest.drop (rest.takeWhile isParameter).length).takeWhile isIntermediate).length + 1) := by
  intro hmem
  rw [List.take_add, hbody, List.take_add] at hmem
  rcases List.mem_append.mp hmem with hmem | hmem
  · rcases List.mem_append.mp hmem with hmem | hmem
    · exact not_mem_take_takeWhile (by decide) rest hmem
    · exact not_mem_take_takeWhile (by decide) _ hmem
  · rw [List.take_succ_cons, List.take_zero, List.mem_singleton] at hmem
    rw [← hmem] at hlast
    exact absurd hlast (by decide)

/-- A control sequence ends before the next line feed. -/
theorem not_mem_take_sequenceLength (s : Text) : '\n' ∉ s.take (sequenceLength s) := by
  unfold sequenceLength
  split
  · rename_i first rest
    dsimp only
    split
    · rename_i last more hbody
      split_ifs with hends
      · rw [List.take_succ_cons, List.take_succ_cons, List.mem_cons, List.mem_cons, hends.1]
        rintro (h | h | h)
        · exact absurd h (by decide)
        · exact absurd h (by decide)
        · exact not_mem_take_body rest last more hends.2 hbody h
      · simp
    · simp
  · simp

theorem count_newline_withoutSequences (skipped : Nat) (s : Text) (h : '\n' ∉ s.take skipped) :
    (withoutSequences skipped s).count '\n' = s.count '\n' := by
  induction s generalizing skipped with
  | nil => cases skipped <;> rfl
  | cons c rest ih =>
    cases skipped with
    | succ skipped =>
      rw [List.take_succ_cons, List.mem_cons, not_or] at h
      rw [withoutSequences, ih skipped h.2, List.count_cons_of_ne (Ne.symm h.1)]
    | zero =>
      have hsequence := not_mem_take_sequenceLength (c :: rest)
      unfold withoutSequences
      cases hlength : sequenceLength (c :: rest) with
      | zero =>
        dsimp only
        rw [List.count_cons, List.count_cons, ih 0 (by simp)]
      | succ skipped =>
        rw [hlength, List.take_succ_cons, List.mem_cons, not_or] at hsequence
        dsimp only
        rw [ih skipped hsequence.2, List.count_cons_of_ne (Ne.symm hsequence.1)]

theorem count_newline_withoutReturns (s : Text) :
    (withoutReturns s).count '\n' = s.count '\n' := by
  induction s with
  | nil => rfl
  | cons c rest ih =>
    cases rest with
    | nil => rfl
    | cons next rest =>
      unfold withoutReturns
      split_ifs with h
      · have hreturn : c ≠ '\n' := by
          rw [h.1]
          decide
        exact ih.trans (List.count_cons_of_ne hreturn).symm
      · rw [List.count_cons, ih, ← List.count_cons]

theorem count_newline_plainLine (line : Text) :
    (plainLine line).count '\n' = line.count '\n' + 1 := by
  rw [plainLine, count_newline_withoutReturns, List.count_append,
    count_newline_withoutSequences 0 line (by simp)]
  rfl

end LoginReport.Text
