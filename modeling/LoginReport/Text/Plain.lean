import LoginReport.Text.Basic

set_option autoImplicit false

/-!
# Plain text

Plain text has no control sequences for terminals, and its lines end with a line feed alone. A
control sequence is an escape character, an opening bracket, parameter characters, intermediate
characters and a final character. Dropping both is all that happens to text when it is printed.
-/

namespace LoginReport.Text

def escape : Char := '\x1b'

/-- The characters from zero to the question mark: digits and the signs behind them. -/
def isParameter (c : Char) : Bool := '0' ≤ c && c ≤ '?'

/-- The blank and the signs before the digits. -/
def isIntermediate (c : Char) : Bool := ' ' ≤ c && c ≤ '/'

/-- The characters from the at sign to the tilde, letters among them. -/
def isFinal (c : Char) : Bool := '@' ≤ c && c ≤ '~'

/-- The length of the control sequence at the beginning, zero where none begins. -/
def sequenceLength : Text → Nat
  | first :: '[' :: rest =>
    let parameters := (rest.takeWhile isParameter).length
    let intermediates := ((rest.drop parameters).takeWhile isIntermediate).length
    match rest.drop (parameters + intermediates) with
    | last :: _ =>
      if first = escape ∧ isFinal last then parameters + intermediates + 3 else 0
    | [] => 0
  | _ => 0

/-- The text without control sequences, where a number of characters is still to be dropped. -/
def withoutSequences : Nat → Text → Text
  | _, [] => []
  | skipped + 1, _ :: rest => withoutSequences skipped rest
  | 0, c :: rest =>
    match sequenceLength (c :: rest) with
    | 0 => c :: withoutSequences 0 rest
    | skipped + 1 => withoutSequences skipped rest

/-- The text without the carriage returns that stand right before a line feed. -/
def withoutReturns : Text → Text
  | [] => []
  | [c] => [c]
  | c :: next :: rest =>
    if c = '\r' ∧ next = '\n' then withoutReturns (next :: rest)
    else c :: withoutReturns (next :: rest)

/-- A line as it is printed, with its line end. -/
def plainLine (line : Text) : Text := withoutReturns (withoutSequences 0 line ++ ['\n'])

theorem sequenceLength_of_ne (c : Char) (rest : Text) (h : c ≠ escape) :
    sequenceLength (c :: rest) = 0 := by
  unfold sequenceLength
  split
  · rename_i heq
    obtain ⟨rfl, -⟩ := List.cons.inj heq
    simp only [h, false_and, if_false]
    split <;> rfl
  · rfl

/-- Text without an escape character has no control sequence. -/
theorem withoutSequences_of_no_escape (s : Text) (h : escape ∉ s) : withoutSequences 0 s = s := by
  induction s with
  | nil => rfl
  | cons c rest ih =>
    rw [List.mem_cons, not_or] at h
    rw [withoutSequences, sequenceLength_of_ne c rest (Ne.symm h.1), ih h.2]

theorem withoutReturns_of_no_return (s : Text) (h : '\r' ∉ s) : withoutReturns s = s := by
  induction s with
  | nil => rfl
  | cons c rest ih =>
    rw [List.mem_cons, not_or] at h
    cases rest with
    | nil => rfl
    | cons next rest =>
      rw [withoutReturns, if_neg (fun hc => h.1 hc.1.symm), ih h.2]

/-- A line of neither is printed as it is. -/
theorem plainLine_of_plain (line : Text) (he : escape ∉ line) (hr : '\r' ∉ line) :
    plainLine line = line ++ ['\n'] := by
  rw [plainLine, withoutSequences_of_no_escape line he, withoutReturns_of_no_return]
  intro h
  rcases List.mem_append.mp h with h | h
  · exact hr h
  · revert h
    decide

end LoginReport.Text
