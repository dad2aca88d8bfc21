import LoginReport.Text.Basic
import Mathlib.Data.Nat.Init

set_option autoImplicit false

/-!
# Printable ASCII

A visible text has printable ASCII characters and no blank among them; a printable one may have
blanks. Numerals are visible in every base, and padding with a printable character keeps a text
printable.
-/

namespace LoginReport.Text

def Visible (s : Text) : Prop := ∀ c ∈ s, 0x20 < c.toNat ∧ c.toNat < 0x7f

def Printable (s : Text) : Prop := ∀ c ∈ s, 0x20 ≤ c.toNat ∧ c.toNat < 0x7f

-- Character by character of the text, where other instances would try every character there is.
instance (s : Text) : Decidable (Visible s) :=
  List.decidableBAll (fun c : Char => 0x20 < c.toNat ∧ c.toNat < 0x7f) s

instance (s : Text) : Decidable (Printable s) :=
  List.decidableBAll (fun c : Char => 0x20 ≤ c.toNat ∧ c.toNat < 0x7f) s

theorem Visible.printable {s : Text} (h : Visible s) : Printable s := by
  intro c hc
  obtain ⟨hlow, hhigh⟩ := h c hc
  omega

theorem Visible.append {s t : Text} (hs : Visible s) (ht : Visible t) : Visible (s ++ t) := by
  intro c hc
  rcases List.mem_append.mp hc with hc | hc
  · exact hs c hc
  · exact ht c hc

theorem Visible.cut {s : Text} (h : Visible s) (n : Int) : Visible (s.cut n) := by
  intro c hc
  unfold Text.cut at hc
  split at hc <;> exact h c (List.mem_of_mem_take hc)

theorem Printable.append {s t : Text} (hs : Printable s) (ht : Printable t) :
    Printable (s ++ t) := by
  intro c hc
  rcases List.mem_append.mp hc with hc | hc
  · exact hs c hc
  · exact ht c hc

theorem Printable.cons {c : Char} {s : Text} (hc : 0x20 ≤ c.toNat ∧ c.toNat < 0x7f)
    (hs : Printable s) : Printable (c :: s) := by
  intro d hd
  rcases List.mem_cons.mp hd with rfl | hd
  · exact hc
  · exact hs d hd

theorem printable_blanks (n : Nat) : Printable (List.replicate n ' ') := by
  intro c hc
  rw [List.eq_of_mem_replicate hc]
  decide

theorem Printable.padRight {s : Text} (h : Printable s) (width : Int) :
    Printable (s.padRight width ' ') :=
  h.append (printable_blanks _)

theorem Printable.padLeft {s : Text} (h : Printable s) (width : Nat) {fill : Char}
    (hfill : 0x20 ≤ fill.toNat ∧ fill.toNat < 0x7f) : Printable (s.padLeft width fill) := by
  intro c hc
  rcases List.mem_append.mp hc with hc | hc
  · rw [List.eq_of_mem_replicate hc]
    exact hfill
  · exact h c hc

theorem visible_digitChar (n : Nat) : 0x20 < n.digitChar.toNat ∧ n.digitChar.toNat < 0x7f := by
  have hsmall : ∀ m < 16, 0x20 < m.digitChar.toNat ∧ m.digitChar.toNat < 0x7f := by decide
  by_cases h : n < 16
  · exact hsmall n h
  · rw [Nat.digitChar_eq_star.mpr (by omega)]
    decide

/-- By the digits before the last one. -/
theorem visible_toDigits {base : Nat} (hbase : 1 < base) (n : Nat) :
    Visible (Nat.toDigits base n) := by
  induction n using Nat.strong_induction_on with
  | h n ih =>
    rw [Nat.toDigits_eq_if hbase]
    have hlast : ∀ d : Nat, Visible [d.digitChar] := by
      intro d c hc
      rw [List.mem_singleton.mp hc]
      exact visible_digitChar d
    by_cases h : n < base
    · rw [if_pos h]
      exact hlast n
    · rw [if_neg h]
      exact (ih (n / base) (Nat.div_lt_self (by omega) hbase)).append (hlast _)

theorem visible_ofNat (n : Nat) : Visible (ofNat n) := visible_toDigits (by decide) n

theorem visible_ofInt (n : Int) : Visible (ofInt n) := by
  cases n with
  | ofNat n => exact visible_ofNat n
  | negSucc n =>
    intro c hc
    rcases List.mem_cons.mp hc with rfl | hc
    · decide
    · exact visible_ofNat (n + 1) c hc

theorem printable_blankTwo (n : Int) : Printable (blankTwo n) :=
  (visible_ofInt n).printable.padLeft 2 (by decide)

theorem printable_zeroTwo (n : Int) : Printable (zeroTwo n) :=
  (visible_ofInt n).printable.padLeft 2 (by decide)

theorem visible_join {separator : Text} (hseparator : Visible separator) (parts : List Text)
    (hparts : ∀ part ∈ parts, Visible part) : Visible (join separator parts) := by
  induction parts with
  | nil =>
    intro c hc
    cases hc
  | cons part rest ih =>
    have hpart := hparts part List.mem_cons_self
    have hrest := ih fun p hp => hparts p (List.mem_cons_of_mem part hp)
    cases rest with
    | nil => exact hpart
    | cons next rest => exact (hpart.append hseparator).append hrest

end LoginReport.Text
