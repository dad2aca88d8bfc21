import LoginReport.CommandLine
import Mathlib.Data.List.Basic
import Mathlib.Data.List.TakeWhile

set_option autoImplicit false

/-!
# How switches are spelled

A switch is spelled by its name behind two dashes, or by its letter behind one dash, where letters
may share the dash. A word that begins with a dash and is neither can be wrong in three ways: it has
an unknown letter, it has an unknown name, or it gives a value to a switch.
-/

namespace LoginReport.CommandLine

inductive Spells : Text → Switch → Prop where
  | name {name : String} {switch : Switch} (h : (name, switch) ∈ longSwitches) :
      Spells name.toList switch
  | letter {cluster : Text} {c : Char} {switch : Switch} (hdash : cluster.head? ≠ some '-')
      (hc : c ∈ cluster) (h : letterSwitch? c = some switch) : Spells ('-' :: cluster) switch

inductive IsUnknown : Text → Prop where
  | letter {cluster : Text} {c : Char} (hdash : cluster.head? ≠ some '-') (hc : c ∈ cluster)
      (h : letterSwitch? c = none) : IsUnknown ('-' :: cluster)
  | name {rest : Text} (h : ∀ entry ∈ longSwitches,
      entry.1.toList ≠ ('-' :: '-' :: rest).takeWhile (· != '=')) : IsUnknown ('-' :: '-' :: rest)
  | value {name : String} {switch : Switch} {value : Text} (h : (name, switch) ∈ longSwitches) :
      IsUnknown (name.toList ++ '=' :: value)

variable {entry : String × Switch} {word rest cluster : Text} {switch : Switch}

/-! ## Names -/

theorem longSwitch?_of_mem : ∀ entry ∈ longSwitches,
    longSwitch? entry.1.toList = some entry.2 := by decide

theorem take_two_of_mem : ∀ entry ∈ longSwitches, entry.1.toList.take 2 = ['-', '-'] := by decide

theorem not_mem_equals_of_mem : ∀ entry ∈ longSwitches, '=' ∉ entry.1.toList := by decide

theorem exists_rest_of_mem (hentry : entry ∈ longSwitches) :
    ∃ rest, entry.1.toList = '-' :: '-' :: rest := by
  refine ⟨entry.1.toList.drop 2, ?_⟩
  have hsplit := List.take_append_drop 2 entry.1.toList
  rw [take_two_of_mem entry hentry] at hsplit
  exact hsplit.symm

/-- A name has two dashes, and letters have one. -/
theorem append_ne_cluster (hentry : entry ∈ longSwitches) (hdash : cluster.head? ≠ some '-')
    (value : Text) : entry.1.toList ++ value ≠ '-' :: cluster := by
  obtain ⟨rest, hrest⟩ := exists_rest_of_mem hentry
  rw [hrest]
  intro h
  obtain ⟨-, rfl⟩ := List.cons.inj h
  exact hdash rfl

theorem name_ne_cluster (hentry : entry ∈ longSwitches) (hdash : cluster.head? ≠ some '-') :
    entry.1.toList ≠ '-' :: cluster := by
  have hne := append_ne_cluster hentry hdash []
  rwa [List.append_nil] at hne

theorem longSwitch?_eq_some_iff :
    longSwitch? word = some switch ↔ ∃ entry ∈ longSwitches,
      entry.1.toList = word ∧ entry.2 = switch := by
  constructor
  · intro h
    obtain ⟨entry, hfound, hswitch⟩ := Option.map_eq_some_iff.mp h
    have hword := List.find?_some hfound
    exact ⟨entry, List.mem_of_find?_eq_some hfound, beq_iff_eq.mp hword, hswitch⟩
  · rintro ⟨entry, hentry, rfl, rfl⟩
    exact longSwitch?_of_mem entry hentry

theorem longSwitch?_eq_none_iff :
    longSwitch? word = none ↔ ∀ entry ∈ longSwitches, entry.1.toList ≠ word := by
  rw [longSwitch?, Option.map_eq_none_iff, List.find?_eq_none]
  simp only [beq_iff_eq, ne_eq]

theorem spells_name_iff :
    Spells ('-' :: '-' :: rest) switch ↔ longSwitch? ('-' :: '-' :: rest) = some switch := by
  rw [longSwitch?_eq_some_iff]
  constructor
  · intro h
    generalize hword : '-' :: '-' :: rest = word at h
    cases h with
    | name h => exact ⟨_, h, rfl, rfl⟩
    | letter hdash hc h =>
      obtain ⟨-, rfl⟩ := List.cons.inj hword
      exact absurd rfl hdash
  · rintro ⟨⟨name, _⟩, hentry, hword, rfl⟩
    rw [← hword]
    exact .name hentry

/-- Either what stands before an equals sign is no name, or it is one and a value follows. -/
theorem isUnknown_of_no_name (h : longSwitch? ('-' :: '-' :: rest) = none) :
    IsUnknown ('-' :: '-' :: rest) := by
  by_cases hname : ∀ entry ∈ longSwitches,
      entry.1.toList ≠ ('-' :: '-' :: rest).takeWhile (· != '=')
  · exact .name hname
  · obtain ⟨entry, hentry⟩ := Classical.not_forall.mp hname
    obtain ⟨hentry, hdiffers⟩ := Classical.not_imp.mp hentry
    have hsplit := List.takeWhile_append_dropWhile (p := (· != '=')) (l := '-' :: '-' :: rest)
    rw [← Classical.not_not.mp hdiffers] at hsplit
    cases hvalue : ('-' :: '-' :: rest).dropWhile (· != '=') with
    | nil =>
      rw [hvalue, List.append_nil] at hsplit
      exact absurd hsplit (longSwitch?_eq_none_iff.mp h entry hentry)
    | cons c value =>
      have hstop := List.head?_dropWhile_not (fun c => c != '=') ('-' :: '-' :: rest)
      rw [hvalue] at hstop
      obtain rfl : c = '=' := by simpa using hstop
      rw [hvalue] at hsplit
      rw [← hsplit]
      exact .value hentry

theorem isUnknown_name_iff :
    IsUnknown ('-' :: '-' :: rest) ↔ longSwitch? ('-' :: '-' :: rest) = none := by
  refine ⟨fun h => ?_, isUnknown_of_no_name⟩
  rw [longSwitch?_eq_none_iff]
  intro entry hentry hname
  have hequals := not_mem_equals_of_mem entry hentry
  generalize hword : '-' :: '-' :: rest = word at h hname
  cases h with
  | letter hdash hc h =>
    obtain ⟨-, rfl⟩ := List.cons.inj hword
    exact hdash rfl
  | name h =>
    refine h entry hentry ?_
    rw [← hname, List.takeWhile_eq_self_iff.mpr]
    intro c hc
    exact bne_iff_ne.mpr fun heq => hequals (heq ▸ hc)
  | value h =>
    rw [hname] at hequals
    exact hequals (List.mem_append_right _ List.mem_cons_self)

/-! ## Letters -/

theorem spells_cluster_iff (hdash : cluster.head? ≠ some '-') :
    Spells ('-' :: cluster) switch ↔ ∃ c ∈ cluster, letterSwitch? c = some switch := by
  constructor
  · intro h
    generalize hword : '-' :: cluster = word at h
    cases h with
    | name h => exact absurd hword.symm (name_ne_cluster h hdash)
    | letter _ hc h =>
      obtain ⟨-, rfl⟩ := List.cons.inj hword
      exact ⟨_, hc, h⟩
  · rintro ⟨c, hc, h⟩
    exact .letter hdash hc h

theorem isUnknown_cluster_iff (hdash : cluster.head? ≠ some '-') :
    IsUnknown ('-' :: cluster) ↔ ∃ c ∈ cluster, letterSwitch? c = none := by
  constructor
  · intro h
    generalize hword : '-' :: cluster = word at h
    cases h with
    | letter _ hc h =>
      obtain ⟨-, rfl⟩ := List.cons.inj hword
      exact ⟨_, hc, h⟩
    | name h =>
      obtain ⟨-, rfl⟩ := List.cons.inj hword
      exact absurd rfl hdash
    | value h => exact absurd hword.symm (append_ne_cluster h hdash _)
  · rintro ⟨c, hc, h⟩
    exact .letter hdash hc h

theorem letters_eq_none_iff : letters word = none ↔ ∃ c ∈ word, letterSwitch? c = none := by
  induction word with
  | nil => simp [letters]
  | cons c rest ih =>
    rw [List.exists_mem_cons_iff, ← ih]
    cases hc : letterSwitch? c with
    | none => simp [letters, hc]
    | some switch => cases hrest : letters rest <;> simp [letters, hc, hrest]

theorem mem_letters_iff {given : List Switch} (h : letters word = some given) :
    switch ∈ given ↔ ∃ c ∈ word, letterSwitch? c = some switch := by
  induction word generalizing given with
  | nil =>
    obtain rfl := Option.some.inj h
    simp
  | cons c rest ih =>
    obtain ⟨first, hfirst, hmore⟩ := Option.bind_eq_some_iff.mp h
    obtain ⟨more, hrest, hgiven⟩ := Option.bind_eq_some_iff.mp hmore
    obtain rfl := Option.some.inj hgiven
    rw [List.exists_mem_cons_iff, List.mem_cons, ih hrest, hfirst, Option.some.injEq, eq_comm]

/-! ## Words -/

theorem switches?_of_name (rest : Text) : switches? ('-' :: '-' :: rest) =
    (longSwitch? ('-' :: '-' :: rest)).map fun switch => [switch] := by
  unfold switches?
  cases longSwitch? ('-' :: '-' :: rest) <;> rfl

theorem switches?_of_cluster (hdash : cluster.head? ≠ some '-') :
    switches? ('-' :: cluster) = letters cluster := by
  have hname : longSwitch? ('-' :: cluster) = none :=
    longSwitch?_eq_none_iff.mpr fun entry hentry => name_ne_cluster hentry hdash
  unfold switches?
  rw [hname]
  cases cluster with
  | nil => rfl
  | cons c rest =>
    have hc : c ≠ '-' := fun heq => hdash (congrArg some heq)
    split
    · rename_i heq
      cases heq
    · rename_i heq
      obtain ⟨rfl, -⟩ := List.cons.inj (List.cons.inj heq).2
      exact absurd rfl hc
    · rename_i heq
      obtain ⟨-, rfl⟩ := List.cons.inj heq
      rfl
    · rename_i hne
      exact absurd rfl (hne _)

/-- A word with a dash and something behind it is a name or a cluster of letters. -/
theorem exists_of_isSwitchWord (h : isSwitchWord word = true) :
    (∃ rest, word = '-' :: '-' :: rest) ∨
      ∃ cluster, cluster.head? ≠ some '-' ∧ word = '-' :: cluster := by
  unfold isSwitchWord at h
  split at h
  · rename_i c rest
    by_cases hc : c = '-'
    · exact Or.inl ⟨rest, by rw [hc]⟩
    · exact Or.inr ⟨c :: rest, fun hhead => hc (Option.some.inj hhead), rfl⟩
  · cases h

theorem switches?_eq_none_iff (h : isSwitchWord word = true) :
    switches? word = none ↔ IsUnknown word := by
  rcases exists_of_isSwitchWord h with ⟨rest, rfl⟩ | ⟨cluster, hdash, rfl⟩
  · rw [switches?_of_name, Option.map_eq_none_iff, isUnknown_name_iff]
  · rw [switches?_of_cluster hdash, letters_eq_none_iff, isUnknown_cluster_iff hdash]

theorem mem_switches?_iff {given : List Switch} (h : isSwitchWord word = true)
    (hgiven : switches? word = some given) : switch ∈ given ↔ Spells word switch := by
  rcases exists_of_isSwitchWord h with ⟨rest, rfl⟩ | ⟨cluster, hdash, rfl⟩
  · rw [switches?_of_name] at hgiven
    obtain ⟨only, hname, rfl⟩ := Option.map_eq_some_iff.mp hgiven
    rw [spells_name_iff, hname, List.mem_singleton, Option.some.injEq, eq_comm]
  · rw [switches?_of_cluster hdash] at hgiven
    rw [spells_cluster_iff hdash, mem_letters_iff hgiven]

theorem isSwitchWord_of_cluster {c : Char} (hc : c ∈ cluster) :
    isSwitchWord ('-' :: cluster) = true := by
  cases cluster with
  | nil => cases hc
  | cons first rest => rfl

theorem Spells.isSwitchWord (h : Spells word switch) : isSwitchWord word = true := by
  cases h with
  | name h =>
    obtain ⟨rest, hrest⟩ := exists_rest_of_mem h
    rw [hrest]
    rfl
  | letter _ hc _ => exact isSwitchWord_of_cluster hc

theorem IsUnknown.isSwitchWord (h : IsUnknown word) : isSwitchWord word = true := by
  cases h with
  | letter _ hc _ => exact isSwitchWord_of_cluster hc
  | name _ => rfl
  | value h =>
    obtain ⟨rest, hrest⟩ := exists_rest_of_mem h
    rw [hrest]
    rfl

end LoginReport.CommandLine
