import LoginReport.Text.Blank
import Mathlib.Data.List.Forall2

set_option autoImplicit false

/-!
# Lines and first words

A line goes on to the next break, so no line has a break in it. The first word of a line stands
behind blanks only and goes on to the next blank. Runs with separators between them are found again,
however many separators there are.
-/

namespace LoginReport.Text

theorem lines_of_break {c : Char} (rest : Text) (hc : isLineBreak c = true) (hreturn : c ≠ '\r') :
    lines (c :: rest) = [] :: lines rest := by
  rw [lines, if_pos hc]
  intro more h
  exact absurd h hreturn

theorem lines_of_char {c : Char} (rest : Text) (hc : isLineBreak c = false) :
    lines (c :: rest) = match lines rest with
      | [] => [[c]]
      | line :: more => (c :: line) :: more := by
  have hreturn : c ≠ '\r' := by
    rintro rfl
    exact absurd hc (by decide)
  cases hrest : lines rest <;> simp [lines, hc, hreturn, hrest]

/-- By the characters of the line, none of which ends it. -/
theorem lines_append_break (line rest : Text) {c : Char} (hline : ∀ x ∈ line, isLineBreak x = false)
    (hc : isLineBreak c = true) (hreturn : c ≠ '\r') :
    lines (line ++ c :: rest) = line :: lines rest := by
  induction line with
  | nil => exact lines_of_break rest hc hreturn
  | cons x line ih =>
    have htail : ∀ y ∈ line, isLineBreak y = false := by
      intro y hy
      exact hline y (List.mem_cons_of_mem x hy)
    rw [List.cons_append, lines_of_char _ (hline x List.mem_cons_self), ih htail]

theorem not_isLineBreak_of_mem_lines (s : Text) :
    ∀ line ∈ lines s, ∀ c ∈ line, isLineBreak c = false := by
  induction s using lines.induct with
  | case1 => simp [lines]
  | case2 rest ih => simpa [lines] using ih
  | case3 c rest hpair hc ih =>
    rw [lines, if_pos hc]
    · simpa using ih
    · exact hpair
  | case4 c rest hpair hc hnone ih =>
    rw [lines, if_neg hc, hnone]
    · simpa using hc
    · exact hpair
  | case5 c rest hpair hc line more hsome ih =>
    rw [lines, if_neg hc, hsome]
    · rw [hsome, List.forall_mem_cons] at ih
      rw [List.forall_mem_cons, List.forall_mem_cons]
      exact ⟨⟨by simpa using hc, ih.1⟩, ih.2⟩
    · exact hpair

/-! ## Words -/

theorem runs_of_separators {α : Type} {separator : α → Bool} (blanks rest : List α)
    (h : ∀ x ∈ blanks, separator x = true) :
    runs separator (blanks ++ rest) = runs separator rest := by
  induction blanks with
  | nil => rfl
  | cons x blanks ih =>
    have hx := h x List.mem_cons_self
    have hrest := ih fun y hy => h y (List.mem_cons_of_mem x hy)
    rw [List.cons_append, ← hrest, runs, List.splitOnP_cons_eq_if_modifyHead, if_pos hx]
    rfl

theorem runs_of_run {α : Type} {separator : α → Bool} (run rest : List α) (hrun : run ≠ [])
    (hitems : ∀ x ∈ run, separator x = false) (hrest : ∀ x ∈ rest.head?, separator x = true) :
    runs separator (run ++ rest) = run :: runs separator rest := by
  cases rest with
  | nil =>
    rw [List.append_nil, runs, List.splitOnP_eq_singleton hitems]
    simp [runs, hrun]
  | cons x rest =>
    have hx : separator x = true := hrest x rfl
    have hblank : runs separator (x :: rest) = runs separator rest :=
      runs_of_separators [x] rest (by simpa using hx)
    rw [hblank, runs, List.splitOnP_append_cons run rest hx, List.splitOnP_eq_singleton hitems]
    simp [runs, hrun]

/-- The runs stand in this order, with separators between two of them and maybe around them. -/
inductive Separated {α : Type} (separator : α → Bool) : List (List α) → List α → Prop where
  | none {blanks : List α} (hblanks : ∀ x ∈ blanks, separator x = true) :
      Separated separator [] blanks
  | run {blanks run rest : List α} {parts : List (List α)}
      (hblanks : ∀ x ∈ blanks, separator x = true) (hrun : run ≠ [])
      (hitems : ∀ x ∈ run, separator x = false) (hrest : ∀ x ∈ rest.head?, separator x = true)
      (hparts : Separated separator parts rest) :
      Separated separator (run :: parts) (blanks ++ (run ++ rest))

section

variable {α : Type} {separator : α → Bool} {parts : List (List α)} {items : List α}

theorem Separated.runs_eq (h : Separated separator parts items) : runs separator items = parts := by
  induction h with
  | @none blanks hblanks =>
    have hall := runs_of_separators blanks [] hblanks
    rw [List.append_nil] at hall
    exact hall
  | @run blanks part rest parts hblanks hrun hitems hrest _ ih =>
    rw [runs_of_separators _ _ hblanks, runs_of_run _ _ hrun hitems hrest, ih]

theorem Separated.separator_or_mem (h : Separated separator parts items) {x : α} (hx : x ∈ items) :
    separator x = true ∨ ∃ part ∈ parts, x ∈ part := by
  induction h with
  | none hblanks => exact Or.inl (hblanks x hx)
  | @run blanks part rest parts hblanks _ _ _ _ ih =>
    rcases List.mem_append.mp hx with hblank | hx
    · exact Or.inl (hblanks x hblank)
    rcases List.mem_append.mp hx with hpart | hrest
    · exact Or.inr ⟨part, List.mem_cons_self, hpart⟩
    · rcases ih hrest with hblank | ⟨other, hother, hmem⟩
      · exact Or.inl hblank
      · exact Or.inr ⟨other, List.mem_cons_of_mem part hother, hmem⟩

/-- One separator before each run. -/
theorem separated_flatMap {x : α} {blanks : List α} (hx : separator x = true)
    (hblanks : ∀ y ∈ blanks, separator y = true)
    (hparts : ∀ part ∈ parts, part ≠ [] ∧ ∀ y ∈ part, separator y = false) :
    Separated separator parts (parts.flatMap (x :: ·) ++ blanks) := by
  induction parts with
  | nil => exact .none hblanks
  | cons part parts ih =>
    obtain ⟨⟨hpart, hitems⟩, hrest⟩ := List.forall_mem_cons.mp hparts
    have hsplit : (part :: parts).flatMap (x :: ·) ++ blanks =
        [x] ++ (part ++ (parts.flatMap (x :: ·) ++ blanks)) := by simp
    rw [hsplit]
    refine .run (by simpa using hx) hpart hitems ?_ (ih hrest)
    cases parts with
    | nil => exact fun y hy => hblanks y (List.mem_of_mem_head? hy)
    | cons next parts => simpa using hx

end

/-- The word stands behind blanks only, and a blank follows it unless the line is at its end. -/
structure IsFirstWord (line word : Text) : Prop where
  place : ∃ blanks rest, line = blanks ++ (word ++ rest) ∧ (∀ c ∈ blanks, isBlank c = true) ∧
    ∀ c ∈ rest.head?, isBlank c = true
  nonempty : word ≠ []
  chars : ∀ c ∈ word, isBlank c = false

theorem IsFirstWord.head?_words {line word : Text} (h : IsFirstWord line word) :
    (words line).head? = some word := by
  obtain ⟨blanks, rest, rfl, hblanks, hrest⟩ := h.place
  rw [words, runs_of_separators _ _ hblanks, runs_of_run _ _ h.nonempty h.chars hrest]
  rfl

theorem exists_isFirstWord {line : Text} (h : line.all isBlank = false) :
    ∃ word, IsFirstWord line word := by
  have hsplit : line.takeWhile isBlank ++ line.dropWhile isBlank = line :=
    List.takeWhile_append_dropWhile
  cases hdrop : line.dropWhile isBlank with
  | nil =>
    rw [hdrop, List.append_nil] at hsplit
    rw [← hsplit, List.all_takeWhile] at h
    cases h
  | cons c tail =>
    have hc := List.head?_dropWhile_not isBlank line
    have hnext := List.head?_dropWhile_not (fun x => !isBlank x) tail
    rw [hdrop] at hc
    refine ⟨c :: tail.takeWhile fun x => !isBlank x, ⟨?_, ?_, ?_⟩⟩
    · refine ⟨line.takeWhile isBlank, tail.dropWhile fun x => !isBlank x, ?_, ?_, ?_⟩
      · rw [List.cons_append, List.takeWhile_append_dropWhile, ← hdrop, hsplit]
      · exact List.all_eq_true.mp List.all_takeWhile
      · intro x hx
        rw [Option.mem_def.mp hx] at hnext
        simpa using hnext
    · exact List.cons_ne_nil _ _
    · rw [List.forall_mem_cons]
      refine ⟨hc, ?_⟩
      intro x hx
      simpa using List.all_eq_true.mp List.all_takeWhile x hx

theorem head?_words_of_blank {line : Text} (h : line.all isBlank = true) :
    (words line).head? = none := by
  have hruns := runs_of_separators line [] (List.all_eq_true.mp h)
  rw [List.append_nil] at hruns
  rw [words, hruns]
  rfl

theorem isFirstWord_of_head?_words {line word : Text} (h : (words line).head? = some word) :
    IsFirstWord line word := by
  cases hblank : line.all isBlank with
  | true =>
    rw [head?_words_of_blank hblank] at h
    cases h
  | false =>
    obtain ⟨first, hfirst⟩ := exists_isFirstWord hblank
    rw [hfirst.head?_words] at h
    obtain rfl := Option.some.inj h
    exact hfirst

/-- The lines that are not blank and their first words, one for one. -/
theorem forall₂_firstWords (ls : List Text) :
    List.Forall₂ IsFirstWord (ls.filter fun line => !line.all isBlank)
      (ls.filterMap fun line => (words line).head?) := by
  induction ls with
  | nil => exact .nil
  | cons line ls ih =>
    cases hblank : line.all isBlank with
    | true =>
      simp only [List.filterMap_cons, head?_words_of_blank hblank]
      rw [List.filter_cons_of_neg (by simp [hblank])]
      exact ih
    | false =>
      obtain ⟨word, hword⟩ := exists_isFirstWord hblank
      simp only [List.filterMap_cons, hword.head?_words]
      rw [List.filter_cons_of_pos (by simp [hblank])]
      exact .cons hword ih

end LoginReport.Text
