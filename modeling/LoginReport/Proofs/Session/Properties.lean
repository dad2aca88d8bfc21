import LoginReport.Proofs.Machine
import LoginReport.Proofs.Text.Lines
import LoginReport.Session.Registry
import Mathlib.Data.List.Nodup

set_option autoImplicit false

/-!
# Properties read back

The registry prints a property on a line of its own, which a line feed ends. Reading ends a line at
more characters than that, so the properties come back as they were printed if and only if none of
their values has one of the other breaks.
-/

namespace LoginReport

namespace Text

/-- The characters that end a line, the line feed and the carriage return apart. -/
def strayBreaks : List Char :=
  ['\x0b', '\x0c', '\x1c', '\x1d', '\x1e', '\u0085', '\u2028', '\u2029']

theorem isLineBreak_iff (c : Char) :
    isLineBreak c = true ↔ c = '\n' ∨ c = '\r' ∨ c ∈ strayBreaks := by
  simp only [isLineBreak, strayBreaks, Bool.or_eq_true, Bool.and_eq_true, decide_eq_true_eq,
    beq_iff_eq, List.mem_cons, List.not_mem_nil, ← Char.toNat_inj]
  simp
  omega

end Text

namespace Registry

def propertyLine (property : Text × Text) : Text := property.1 ++ '=' :: property.2

/-- The properties as the registry prints them. -/
def printed (assignment : List (Text × Text)) : Text :=
  assignment.flatMap fun property => propertyLine property ++ ['\n']

theorem property?_propertyLine (property : Text × Text) (h : '=' ∉ property.1) :
    property? (propertyLine property) = some property := by
  have hname : ∀ c ∈ property.1, (c != '=') = true := by
    intro c hc
    rw [bne_iff_ne]
    rintro rfl
    exact h hc
  rw [property?, propertyLine, List.dropWhile_append_of_pos hname,
    List.takeWhile_append_of_pos hname]
  simp

variable {assignment : List (Text × Text)}

theorem lines_printed (h : ∀ p ∈ assignment, ∀ c ∈ propertyLine p, Text.isLineBreak c = false) :
    Text.lines (printed assignment) = assignment.map propertyLine := by
  induction assignment with
  | nil => rfl
  | cons property rest ih =>
    rw [List.forall_mem_cons] at h
    have hline := Text.lines_append_break (propertyLine property) (printed rest) h.1
      (c := '\n') (by decide) (by decide)
    rw [printed, List.flatMap_cons, List.append_assoc, List.singleton_append, ← printed, hline,
      ih h.2, List.map_cons]

theorem properties_printed
    (hnames : ∀ p ∈ assignment, '=' ∉ p.1 ∧ ∀ c ∈ p.1, Text.isLineBreak c = false)
    (hvalues : ∀ p ∈ assignment, ∀ c ∈ p.2, Text.isLineBreak c = false) :
    properties (printed assignment) = assignment := by
  have hlines : ∀ p ∈ assignment, ∀ c ∈ propertyLine p, Text.isLineBreak c = false := by
    intro p hp c hc
    rw [propertyLine, List.mem_append, List.mem_cons] at hc
    rcases hc with hc | rfl | hc
    · exact (hnames p hp).2 c hc
    · decide
    · exact hvalues p hp c hc
  have hread : ∀ p ∈ assignment, property? (propertyLine p) = some p := by
    intro p hp
    exact property?_propertyLine p (hnames p hp).1
  rw [properties, lines_printed hlines, List.filterMap_map]
  exact (List.filterMap_congr hread).trans List.filterMap_some

theorem mem_of_property? {line : Text} {property : Text × Text}
    (h : property? line = some property) : ∀ c ∈ property.2, c ∈ line := by
  unfold property? at h
  split at h
  · cases h
  · rename_i value hdrop
    obtain rfl := Option.some.inj h
    intro c hc
    apply (List.dropWhile_suffix _).subset
    rw [hdrop]
    exact List.mem_cons_of_mem _ hc

/-- Whatever was printed, a value that is read is a part of one line. -/
theorem not_isLineBreak_of_mem_properties {output : Text} {property : Text × Text}
    (h : property ∈ properties output) : ∀ c ∈ property.2, Text.isLineBreak c = false := by
  obtain ⟨line, hline, hproperty⟩ := List.mem_filterMap.mp h
  intro c hc
  apply Text.not_isLineBreak_of_mem_lines output line hline
  exact mem_of_property? hproperty c hc

/-! ## The value of a name -/

theorem lookup_eq_some_iff_mem (hkeys : (assignment.map Prod.fst).Nodup) (name value : Text) :
    assignment.lookup name = some value ↔ (name, value) ∈ assignment := by
  constructor
  · intro h
    obtain ⟨before, after, rfl, -⟩ := List.lookup_eq_some_iff.mp h
    simp
  · intro h
    obtain ⟨before, after, rfl⟩ := List.append_of_mem h
    rw [List.lookup_eq_some_iff]
    refine ⟨before, after, rfl, ?_⟩
    intro p hp
    rw [List.map_append, List.nodup_append] at hkeys
    rw [bne_iff_ne]
    apply Ne.symm
    apply hkeys.2.2
    · exact List.mem_map_of_mem hp
    · simp

theorem value?_eq_lookup (hkeys : (assignment.map Prod.fst).Nodup) (name : String) :
    value? assignment name = assignment.lookup name.toList := by
  have hreverse : (assignment.reverse.map Prod.fst).Nodup := by
    rw [List.map_reverse, List.nodup_reverse]
    exact hkeys
  apply Option.ext
  intro value
  rw [value?, lookup_eq_some_iff_mem hreverse, lookup_eq_some_iff_mem hkeys, List.mem_reverse]

theorem mem_of_value? {entries : List (Text × Text)} {name : String} {value : Text}
    (h : value? entries name = some value) : (name.toList, value) ∈ entries := by
  obtain ⟨before, after, hsplit, -⟩ := List.lookup_eq_some_iff.mp h
  rw [← List.mem_reverse, hsplit]
  simp

theorem plain_propertyNames :
    ∀ name ∈ propertyNames, '=' ∉ name ∧ ∀ c ∈ name, Text.isLineBreak c = false := by
  have hplain : (propertyNames.all fun name =>
      !name.contains '=' && name.all fun c => !Text.isLineBreak c) = true := by decide +kernel
  simpa using hplain

/-- Each of the six properties has one value, in any order. -/
def IsAssignment (assignment : List (Text × Text)) : Prop :=
  (assignment.map Prod.fst).Perm propertyNames

theorem IsAssignment.nodup (h : IsAssignment assignment) : (assignment.map Prod.fst).Nodup := by
  rw [h.nodup_iff]
  decide +kernel

theorem IsAssignment.plain (h : IsAssignment assignment) :
    ∀ p ∈ assignment, '=' ∉ p.1 ∧ ∀ c ∈ p.1, Text.isLineBreak c = false := by
  intro p hp
  exact plain_propertyNames p.1 (h.subset (List.mem_map_of_mem hp))

/-- A value with a stray break never comes back, since what is read ends at the first break; where
no value has one, all come back. -/
theorem values_printed_iff (machine : Machine) (program identifier : Text)
    (hassignment : IsAssignment assignment)
    (hlines : ∀ p ∈ assignment, '\n' ∉ p.2 ∧ '\r' ∉ p.2)
    (hprinted : machine.run (showCommand program identifier) = .printed (printed assignment)) :
    ∃ read, (machine.output (showCommand program identifier)).map properties = .ok read ∧
      ((∀ name : String, value? read name = assignment.lookup name.toList) ↔
        ∀ p ∈ assignment, ∀ c ∈ p.2, c ∉ Text.strayBreaks) := by
  refine ⟨properties (printed assignment), ?_, ?_, ?_⟩
  · rw [Machine.output, hprinted]
    rfl
  · intro hread p hp c hc hstray
    have hvalue := hread (String.ofList p.1)
    rw [String.toList_ofList, (lookup_eq_some_iff_mem hassignment.nodup _ _).mpr hp] at hvalue
    have hplain := not_isLineBreak_of_mem_properties (mem_of_value? hvalue) c hc
    rw [(Text.isLineBreak_iff c).mpr (Or.inr (Or.inr hstray))] at hplain
    cases hplain
  · intro hstray name
    have hvalues : ∀ p ∈ assignment, ∀ c ∈ p.2, Text.isLineBreak c = false := by
      intro p hp c hc
      rw [Bool.eq_false_iff, Ne, Text.isLineBreak_iff]
      rintro (rfl | rfl | hbreak)
      · exact (hlines p hp).1 hc
      · exact (hlines p hp).2 hc
      · exact hstray p hp c hc hbreak
    rw [properties_printed hassignment.plain hvalues, value?_eq_lookup hassignment.nodup]

/-- The properties of a session from a remote host of this name. -/
def fromHost (host : Text) : List (Text × Text) :=
  propertyNames.zip ((["alice", "1000", "pts/3", "100", "0"].map String.toList) ++ [host])

def fromPlainHost : List (Text × Text) := fromHost ['a', '=', 'é', '\t', '\x1f']

def fromForgingHost : List (Text × Text) := fromHost "h\x0bUser=0".toList

def plainHostMachine : Machine :=
  Machine.bare.withOutcome (showCommand ['l'] ['1']) (.printed (printed fromPlainHost))

theorem values_printed_with_equals_sign :
    IsAssignment fromPlainHost ∧ (∀ p ∈ fromPlainHost, '\n' ∉ p.2 ∧ '\r' ∉ p.2) ∧
      plainHostMachine.run (showCommand ['l'] ['1']) = .printed (printed fromPlainHost) ∧
      (∀ p ∈ fromPlainHost, ∀ c ∈ p.2, c ∉ Text.strayBreaks) ∧
      ∃ read, (plainHostMachine.output (showCommand ['l'] ['1'])).map properties = .ok read ∧
        ((∀ name : String, value? read name = fromPlainHost.lookup name.toList) ↔
          ∀ p ∈ fromPlainHost, ∀ c ∈ p.2, c ∉ Text.strayBreaks) := by
  have hassignment : IsAssignment fromPlainHost := by
    unfold IsAssignment
    decide +kernel
  have hlines : ∀ p ∈ fromPlainHost, '\n' ∉ p.2 ∧ '\r' ∉ p.2 := by decide +kernel
  have hprinted : plainHostMachine.run (showCommand ['l'] ['1']) =
      .printed (printed fromPlainHost) := Machine.run_withOutcome _ _ _
  have hstray :
      (fromPlainHost.all fun p => p.2.all fun c => !Text.strayBreaks.contains c) = true := by
    decide +kernel
  refine ⟨hassignment, hlines, hprinted, by simpa using hstray, ?_⟩
  exact values_printed_iff plainHostMachine ['l'] ['1'] hassignment hlines hprinted

/-- A remote host's name tells a user number after a vertical tab: the number is taken for the
session's own, and the name ends before it. -/
theorem user_of_forging_host :
    IsAssignment fromForgingHost ∧ (∀ p ∈ fromForgingHost, '\n' ∉ p.2 ∧ '\r' ∉ p.2) ∧
      fromForgingHost.lookup "User".toList = some "1000".toList ∧
      value? (properties (printed fromForgingHost)) "User" = some ['0'] ∧
      fromForgingHost.lookup "RemoteHost".toList = some "h\x0bUser=0".toList ∧
      value? (properties (printed fromForgingHost)) "RemoteHost" = some ['h'] := by
  refine ⟨?_, ?_, ?_, ?_, ?_, ?_⟩
  · unfold IsAssignment
    decide +kernel
  all_goals decide +kernel

end Registry

end LoginReport
