import LoginReport.Text.Basic

set_option autoImplicit false

/-!
# Where a part stands in a text

A part is found where it first begins. When it holds a character that the text has nowhere before
that place, it begins nowhere earlier.
-/

namespace LoginReport.Text

/-- The number of characters before the first place where the part begins. -/
def offset? (part : Text) : Text → Option Nat
  | [] => if part.isEmpty then some 0 else none
  | c :: rest =>
    if part.isPrefixOf (c :: rest) then some 0 else (offset? part rest).map (· + 1)

theorem mem_padRight {s : Text} {width : Int} {fill c : Char} (h : c ∈ s.padRight width fill) :
    c ∈ s ∨ c = fill := by
  rcases List.mem_append.mp h with hs | hf
  · exact Or.inl hs
  · exact Or.inr (List.eq_of_mem_replicate hf)

theorem offset?_of_prefix {part s : Text} (h : part <+: s) : offset? part s = some 0 := by
  cases s with
  | nil =>
    rw [List.prefix_nil] at h
    subst h
    rfl
  | cons c rest =>
    rw [offset?, if_pos (List.isPrefixOf_iff_prefix.mpr h)]

/-- A character of the part that is new at its place rules out every place before. -/
theorem not_prefix_of_new {before lead tail after : Text} {b c : Char}
    (h : c ∉ b :: before ++ lead) :
    ¬lead ++ c :: tail <+: b :: before ++ (lead ++ c :: tail ++ after) := by
  rintro ⟨rest, hrest⟩
  have hcut := congrArg (List.take (lead.length + 1)) hrest
  have hleft : (lead ++ c :: tail ++ rest).take (lead.length + 1) = lead ++ [c] := by
    simp [List.take_append, List.take_of_length_le]
  have hright : (b :: before ++ (lead ++ c :: tail ++ after)).take (lead.length + 1) =
      (b :: before ++ lead).take (lead.length + 1) := by
    rw [← List.append_assoc, ← List.append_assoc, List.append_assoc _ _ after]
    refine List.take_append_of_le_length ?_
    simp
  rw [hleft, hright] at hcut
  have hmem : c ∈ (b :: before ++ lead).take (lead.length + 1) := by
    rw [← hcut]
    simp
  exact h (List.mem_of_mem_take hmem)

theorem offset?_append {lead tail after : Text} {c : Char} (before : Text)
    (h : c ∉ before ++ lead) :
    offset? (lead ++ c :: tail) (before ++ (lead ++ c :: tail ++ after)) = some before.length := by
  induction before with
  | nil => exact offset?_of_prefix (List.prefix_append _ _)
  | cons b before ih =>
    have hnot : ¬(lead ++ c :: tail).isPrefixOf
        (b :: before ++ (lead ++ c :: tail ++ after)) = true := by
      rw [List.isPrefixOf_iff_prefix]
      exact not_prefix_of_new h
    have hrest : c ∉ before ++ lead := by
      intro hc
      exact h (List.mem_cons_of_mem b hc)
    rw [List.cons_append, offset?, ← List.cons_append, if_neg hnot, ih hrest]
    rfl

/-- The part and the text may be given in any form. -/
theorem offset?_of_new {part s before lead tail after : Text} {c : Char}
    (hpart : part = lead ++ c :: tail) (hs : s = before ++ (part ++ after))
    (h : c ∉ before ++ lead) : offset? part s = some before.length := by
  subst hs
  subst hpart
  exact offset?_append before h

end LoginReport.Text
