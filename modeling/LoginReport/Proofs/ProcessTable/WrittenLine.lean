import LoginReport.Proofs.ProcessTable.StatLine
import LoginReport.Proofs.Text.Lines
import LoginReport.Proofs.Text.Numeral

set_option autoImplicit false

/-!
# Status lines as they are written

The number of a process, its name in parentheses, a word for its state and then numbers. The name
may be any bytes, also such as look like the rest of a line. It comes back whole, since no
parenthesis closes behind it, and each number comes back with its sign.
-/

namespace LoginReport

namespace Stat

variable {target : UInt8} {before after : Bytes}

theorem firstIndex?_append (h : target ∉ before) (after : Bytes) :
    firstIndex? target (before ++ target :: after) = some before.length := by
  induction before with
  | nil => simp [firstIndex?]
  | cons b before ih =>
    rw [List.mem_cons, not_or] at h
    rw [List.cons_append, firstIndex?, if_neg (Ne.symm h.1), ih h.2]
    rfl

theorem lastIndex?_eq_none (h : target ∉ after) : lastIndex? target after = none := by
  induction after with
  | nil => rfl
  | cons b after ih =>
    rw [List.mem_cons, not_or] at h
    rw [lastIndex?, ih h.2]
    exact if_neg (Ne.symm h.1)

theorem lastIndex?_append (before : Bytes) (h : target ∉ after) :
    lastIndex? target (before ++ target :: after) = some before.length := by
  induction before with
  | nil => simp [lastIndex?, lastIndex?_eq_none h]
  | cons b before ih =>
    rw [List.cons_append, lastIndex?, ih]
    rfl

/-! ## The parts of a line -/

def space : UInt8 := 0x20

/-- What stands before the name. -/
def head (pid : Decimal) : Bytes := pid.bytes ++ [space, opening]

def written (pid : Decimal) (name tail : Bytes) : Bytes :=
  head pid ++ name ++ closing :: space :: tail

variable {pid : Decimal} {name tail state : Bytes} {numbers : List Decimal}

theorem opening_not_mem_pid (pid : Decimal) : opening ∉ pid.bytes ++ [space] := by
  intro h
  rcases List.mem_append.mp h with hpid | hspace
  · exact absurd (pid.isByte_of_mem hpid) (by decide)
  · exact absurd hspace (by decide)

theorem nameStart_written : nameStart (written pid name tail) = (head pid).length := by
  have hline : written pid name tail =
      (pid.bytes ++ [space]) ++ opening :: (name ++ closing :: space :: tail) := by
    simp [written, head]
  rw [nameStart, hline, firstIndex?_append (opening_not_mem_pid pid)]
  simp [head]

/-- The parenthesis behind the name is the last that closes, whatever the name holds. -/
theorem nameEnd_written (htail : closing ∉ tail) :
    nameEnd (written pid name tail) =
      ((head pid ++ name).length, (head pid ++ name).length + 2) := by
  have hrest : closing ∉ space :: tail := by
    rw [List.mem_cons, not_or]
    exact ⟨by decide, htail⟩
  rw [nameEnd, written, lastIndex?_append _ hrest]

theorem nameBytes_written (htail : closing ∉ tail) :
    nameBytes (written pid name tail) = name := by
  rw [nameBytes, nameEnd_written htail, nameStart_written, written, List.take_left, List.drop_left]

theorem fieldBytes_written (htail : closing ∉ tail) :
    fieldBytes (written pid name tail) = tail := by
  rw [fieldBytes, nameEnd_written htail, written, List.drop_length_add_append]
  rfl

/-! ## The fields -/

theorem closing_not_mem_tail
    (htail : Text.Separated Text.isBlankByte (state :: numbers.map Decimal.bytes) tail)
    (hstate : closing ∉ state) : closing ∉ tail := by
  intro h
  rcases htail.separator_or_mem h with hblank | ⟨field, hfield, hmem⟩
  · exact absurd hblank (by decide)
  · rcases List.mem_cons.mp hfield with rfl | hnumber
    · exact hstate hmem
    · obtain ⟨number, -, rfl⟩ := List.mem_map.mp hnumber
      exact absurd (number.isByte_of_mem hmem) (by decide)

/-- The state is the first field, so the numbers are counted from one on. -/
theorem isField_written
    (htail : Text.Separated Text.isBlankByte (state :: numbers.map Decimal.bytes) tail)
    (hstate : closing ∉ state)
    (hdigits : ∀ number ∈ numbers, number.digits.length ≤ Numeral.digitLimit) {place : Nat}
    (hplace : place < numbers.length) :
    IsField (written pid name tail) (place + 1) numbers[place].value := by
  refine ⟨numbers[place].bytes, ?_, ?_⟩
  · rw [fieldBytes_written (closing_not_mem_tail htail hstate), htail.runs_eq,
      List.getElem?_cons_succ, List.getElem?_map, List.getElem?_eq_getElem hplace]
    rfl
  · exact Decimal.ofBytes_bytes _ (hdigits _ (List.getElem_mem hplace))

/-- Whatever the name of a process is, its line is read as it was written. -/
theorem ofLine_written (pid : Decimal) (name tail state : Bytes) (numbers : List Decimal)
    (htail : Text.Separated Text.isBlankByte (state :: numbers.map Decimal.bytes) tail)
    (hstate : closing ∉ state) (hcount : 19 ≤ numbers.length)
    (hdigits : ∀ number ∈ numbers, number.digits.length ≤ Numeral.digitLimit) :
    ofLine (written pid name tail) =
      .ok { name := Utf8.decode name
            group := numbers[1].value
            terminal := numbers[3].value
            foreground := numbers[4].value
            userTicks := numbers[10].value
            systemTicks := numbers[11].value
            startTicks := numbers[18].value } := by
  have hfield : ∀ place (hplace : place < numbers.length),
      IsField (written pid name tail) (place + 1) numbers[place].value :=
    fun place hplace => isField_written htail hstate hdigits hplace
  rw [ofLine_eq_ok_iff]
  exact {
    name := by rw [nameBytes_written (closing_not_mem_tail htail hstate)]
    group := hfield 1 (by omega)
    terminal := hfield 3 (by omega)
    foreground := hfield 4 (by omega)
    userTicks := hfield 10 (by omega)
    systemTicks := hfield 11 (by omega)
    startTicks := hfield 18 (by omega) }

/-- A process of terminal 1025, of which no group is in the foreground. -/
def plainNumbers : List Decimal :=
  [⟨.none, 1, []⟩, ⟨.none, 7, []⟩, ⟨.none, 7, []⟩, ⟨.none, 1, [0, 2, 5]⟩, ⟨.minus, 1, []⟩,
    ⟨.none, 0, []⟩, ⟨.none, 0, []⟩, ⟨.none, 0, []⟩, ⟨.none, 0, []⟩, ⟨.none, 0, []⟩,
    ⟨.none, 5, []⟩, ⟨.none, 6, []⟩, ⟨.none, 0, []⟩, ⟨.none, 0, []⟩, ⟨.none, 2, [0]⟩,
    ⟨.none, 0, []⟩, ⟨.none, 1, []⟩, ⟨.none, 0, []⟩, ⟨.none, 9, [9]⟩]

def plainTail : Bytes := 0x53 :: ((plainNumbers.map Decimal.bytes).flatMap (space :: ·) ++ [0x0a])

theorem separated_plainTail :
    Text.Separated Text.isBlankByte ([0x53] :: plainNumbers.map Decimal.bytes) plainTail := by
  have hnumbers : ∀ part ∈ plainNumbers.map Decimal.bytes,
      part ≠ [] ∧ ∀ b ∈ part, Text.isBlankByte b = false := by
    intro part hpart
    obtain ⟨number, -, rfl⟩ := List.mem_map.mp hpart
    exact ⟨number.bytes_ne_nil, fun b hb => (number.isByte_of_mem hb).not_isBlankByte⟩
  have hrest : Text.Separated Text.isBlankByte (plainNumbers.map Decimal.bytes)
      ((plainNumbers.map Decimal.bytes).flatMap (space :: ·) ++ [0x0a]) :=
    Text.separated_flatMap (by decide) (List.forall_mem_singleton.mpr (by decide)) hnumbers
  have hspace : ∀ b ∈ ((plainNumbers.map Decimal.bytes).flatMap (space :: ·) ++ [0x0a]).head?,
      Text.isBlankByte b = true := by
    intro b hb
    obtain rfl := Option.some.inj hb
    decide
  exact .run (List.forall_mem_nil _) (List.cons_ne_nil _ _)
    (List.forall_mem_singleton.mpr (by decide)) hspace hrest

/-- The name begins like the rest of another line. -/
theorem ofLine_written_misleading_name :
    Text.Separated Text.isBlankByte ([0x53] :: plainNumbers.map Decimal.bytes) plainTail ∧
      closing ∉ ([0x53] : Bytes) ∧ 19 ≤ plainNumbers.length ∧
      (∀ number ∈ plainNumbers, number.digits.length ≤ Numeral.digitLimit) ∧
      ofLine (Utf8.encode
          "7 (a) R 9 (\nb) S 1 7 7 1025 -1 0 0 0 0 0 5 6 0 0 20 0 1 0 99\n".toList) =
        .ok ⟨"a) R 9 (\nb".toList, 7, 1025, -1, 5, 6, 99⟩ := by
  have hdigits : ∀ number ∈ plainNumbers, number.digits.length ≤ Numeral.digitLimit := by decide
  have hline := ofLine_written ⟨.none, 7, []⟩ (Utf8.encode "a) R 9 (\nb".toList) plainTail [0x53]
    plainNumbers separated_plainTail (by decide) (by decide) hdigits
  refine ⟨separated_plainTail, by decide, by decide, hdigits, ?_⟩
  have hwritten : Utf8.encode
      "7 (a) R 9 (\nb) S 1 7 7 1025 -1 0 0 0 0 0 5 6 0 0 20 0 1 0 99\n".toList =
        written ⟨.none, 7, []⟩ (Utf8.encode "a) R 9 (\nb".toList) plainTail := by decide +kernel
  rw [hwritten, hline]
  decide +kernel

end Stat

end LoginReport
