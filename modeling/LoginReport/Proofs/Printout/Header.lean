import LoginReport.Proofs.Table.Titles
import LoginReport.Proofs.Text.Control

set_option autoImplicit false

/-!
# The two lines of the header

The line about the machine and the line of titles are printable text, whatever the machine tells, so
they are printed as they are.
-/

namespace LoginReport

namespace Text

theorem Printable.plainLine {line : Text} (h : Printable line) :
    plainLine line = line ++ ['\n'] :=
  plainLine_of_plain line (h.not_mem (Or.inl (by decide))) (h.not_mem (Or.inl (by decide)))

end Text

open Text

theorem Binary64.printable_twoPlaces (x : Binary64) : Printable x.twoPlaces := by
  cases x with
  | nan negative =>
    change Printable "nan".toList
    decide
  | infinite negative => cases negative <;> decide
  | finite negative units =>
    have hsign : Printable (if negative = true then ['-'] else []) := by
      cases negative <;> decide
    refine (hsign.append (visible_ofNat _).printable).append ?_
    exact (printable_zeroTwo _).cons (by decide)

namespace Uptime

theorem printable_plural {one many : String} (n : Int) (hone : Printable one.toList)
    (hmany : Printable many.toList) : Printable (plural n one many) := by
  unfold plural
  split
  · exact hmany
  · exact hone

theorem printable_days (seconds : Int) : Printable (days seconds) := by
  unfold days
  dsimp only
  split
  · decide
  · refine ((visible_ofInt _).printable.append ?_).append (by decide)
    exact (printable_plural _ (by decide) (by decide)).cons (by decide)

theorem printable_hoursMinutes (seconds : Int) : Printable (hoursMinutes seconds) := by
  unfold hoursMinutes
  dsimp only
  split
  · exact (visible_ofInt _).printable.append (by decide)
  · refine ((printable_blankTwo _).append ?_).append (by decide)
    exact (printable_zeroTwo _).cons (by decide)

theorem printable_clock (time : LocalTime) : Printable (clock time) := by
  have hpart (n : Nat) (before : Char) (h : 0x20 ≤ before.toNat ∧ before.toNat < 0x7f) :
      Printable (before :: zeroTwo n) := (printable_zeroTwo n).cons h
  exact ((hpart _ ' ' (by decide)).append (hpart _ ':' (by decide))).append
    (hpart _ ':' (by decide))

theorem printable_userCount (users : Int) : Printable (userCount users) := by
  refine (printable_blankTwo _).append ?_
  exact (printable_plural _ (by decide) (by decide)).cons (by decide)

theorem printable_load (average : LoadAverage) : Printable (load average) := by
  have hbetween : Printable [',', ' '] := by decide
  refine Printable.append (by decide) ?_
  refine ((Binary64.printable_twoPlaces _).append hbetween).append ?_
  exact ((Binary64.printable_twoPlaces _).append hbetween).append (Binary64.printable_twoPlaces _)

theorem printable_line {zone users : Int} {now uptime : Binary64} {average : LoadAverage}
    {shown : Text} (h : line zone now uptime users average = .ok shown) : Printable shown := by
  obtain ⟨time, -, hrest⟩ := (bind_eq_ok _ _ _).mp h
  obtain ⟨seconds, -, hshown⟩ := (bind_eq_ok _ _ _).mp hrest
  obtain rfl := Except.ok.inj hshown
  refine Printable.append (Printable.append ?_ (printable_userCount users)) (printable_load average)
  refine Printable.append ((printable_clock time).append (by decide)) ?_
  exact (printable_days _).append (printable_hoursMinutes _)

end Uptime

theorem Table.printable_titleLine (settings : Settings) : Printable (titleLine settings) := by
  have horigin : Printable (originTitle settings) := by
    unfold originTitle
    split
    · exact Printable.padRight (by decide) _
    · decide
  have htimes : Printable (timeTitles settings) := by
    unfold timeTitles
    split <;> decide
  have huser : Printable (userTitle settings) := Printable.padRight (by decide) _
  exact (((huser.append (by decide)).append horigin).append htimes).append (by decide)

namespace Printout

variable {machine : Machine} {settings : Settings} {text : Text}

theorem printable_uptime (h : uptime machine settings = .ok text) : Printable text := by
  obtain ⟨seconds, -, hload⟩ := (bind_eq_ok _ _ _).mp h
  obtain ⟨average, -, hline⟩ := (bind_eq_ok _ _ _).mp hload
  exact Uptime.printable_line hline

theorem header_eq (hbounds : settings.InBounds) (uptime : Text) :
    header settings uptime = .ok [uptime, Table.titleLine settings] := by
  rw [header, Table.titles_ok hbounds]
  rfl

theorem plainLines_header (h : uptime machine settings = .ok text) :
    [text, Table.titleLine settings].flatMap plainLine =
      text ++ '\n' :: Table.titleLine settings ++ ['\n'] := by
  rw [List.flatMap_cons, List.flatMap_cons, List.flatMap_nil, List.append_nil,
    (printable_uptime h).plainLine, (Table.printable_titleLine settings).plainLine,
    List.append_assoc, List.singleton_append, List.append_assoc, List.cons_append]

end Printout

end LoginReport
