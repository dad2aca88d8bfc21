import LoginReport.Proofs.Settings.Budget
import LoginReport.Proofs.Text.Leading

set_option autoImplicit false

/-!
# Settings from the environment

As long as the environment's numerals are short enough to be read, there are settings, and they are
in bounds. A length that is out of its range is warned of once and left alone, and a wider report or
one with fewer columns never has less room for the command.
-/

namespace LoginReport.Settings

def userVariable : Text := "PROCPS_USERLEN".toList

def fromVariable : Text := "PROCPS_FROMLEN".toList

def columnsVariable : Text := "COLUMNS".toList

/-- The leading numerals of the variables have few enough digits. -/
def IsReadable (environment : Text → Option Text) : Prop :=
  ∀ name ∈ [userVariable, fromVariable, columnsVariable], ∀ raw, environment name = some raw →
    (Numeral.leadingDigits raw).length ≤ 4300

/-- The length that a variable stands for, and what is told about it. -/
structure IsLengthOf (environment : Text → Option Text) (name : Text) (high default : Int)
    (length : Int) (notices : List Notice) : Prop where
  unset : environment name = none → length = default ∧ notices = []
  inRange : ∀ raw, environment name = some raw →
    8 ≤ Numeral.leadingValue raw → Numeral.leadingValue raw ≤ high →
      length = Numeral.leadingValue raw ∧ notices = []
  outOfRange : ∀ raw, environment name = some raw →
    (Numeral.leadingValue raw < 8 ∨ high < Numeral.leadingValue raw) →
      length = default ∧ notices = [.lengthOutOfRange name 8 high default]

/-- The width of a report: the one that is given, or that of the terminal, or that of the
environment, or else the widest. -/
def columnCount (environment : Text → Option Text) (terminal width : Option Int) : Int :=
  match width with
  | some width => width
  | none =>
    if 0 < terminal.getD 0 then terminal.getD 0
    else match environment columnsVariable with
      | some raw => Numeral.leadingValue raw
      | none => 512

variable {environment : Text → Option Text} {terminal width : Option Int} {switches : Switches}
variable {settings : Settings}

theorem exists_lengthOf {name : Text} (high default : Int)
    (h : ∀ raw, environment name = some raw → (Numeral.leadingDigits raw).length ≤ 4300) :
    ∃ length notices, lengthOf environment name high default = ⟨[], notices, .ok length⟩ ∧
      IsLengthOf environment name high default length notices := by
  unfold lengthOf
  cases hraw : environment name with
  | none =>
    refine ⟨default, [], rfl, ⟨fun _ => ⟨rfl, rfl⟩, ?_, ?_⟩⟩
    · simp [hraw]
    · simp [hraw]
  | some raw =>
    dsimp only
    rw [Numeral.leading_eq (h raw hraw)]
    dsimp only
    unfold lowestLength
    split
    · rename_i hout
      refine ⟨default, _, rfl, ⟨by simp [hraw], ?_, fun _ _ _ => ⟨rfl, rfl⟩⟩⟩
      rintro other hother hlow hhigh
      rw [Option.some.inj (hother.symm.trans hraw)] at hlow hhigh
      omega
    · rename_i hin
      refine ⟨Numeral.leadingValue raw, [], rfl, ⟨by simp [hraw], ?_, ?_⟩⟩
      · rintro other hother - -
        rw [Option.some.inj (hother.symm.trans hraw)]
        exact ⟨rfl, rfl⟩
      · rintro other hother hout
        rw [Option.some.inj (hother.symm.trans hraw)] at hout
        exact absurd hout hin

theorem columnsFor_eq (h : IsReadable environment) :
    columnsFor environment terminal width = .ok (columnCount environment terminal width) := by
  cases width with
  | some width => rfl
  | none =>
    unfold columnsFor columns columnCount
    dsimp only
    split
    · rfl
    · change (match environment columnsVariable with | some raw => _ | none => _) = _
      cases hraw : environment columnsVariable with
      | none => rfl
      | some raw => exact Numeral.leading_eq (h _ (by simp) raw hraw)

theorem read_eq_of_lengths {user origin columns : Int} {first second : List Notice}
    (huser : lengthOf environment userVariable highestUserLength 8 = ⟨[], first, .ok user⟩)
    (horigin : lengthOf environment fromVariable highestFromLength 16 = ⟨[], second, .ok origin⟩)
    (hcolumns : columnsFor environment terminal width = .ok columns) :
    read environment terminal width switches =
      ⟨[], first ++ second, .ok (ofSwitches switches user origin columns)⟩ := by
  rw [← List.append_nil second]
  refine Run.bind_of_silent huser (Run.bind_of_silent horigin ?_)
  cases width with
  | some width =>
    obtain rfl := Except.ok.inj hcolumns
    rfl
  | none =>
    have hread : Settings.columns environment terminal = .ok columns := hcolumns
    dsimp only
    rw [hread]
    rfl

theorem taken_mono {user origin : Int} {showFrom showFrom' longForm longForm' : Bool}
    (horigin : 0 ≤ origin) (hfrom : showFrom' = true → showFrom = true)
    (hlong : longForm' = true → longForm = true) :
    taken user origin showFrom' longForm' ≤ taken user origin showFrom longForm := by
  have hshown : (if showFrom' = true then origin else 0) ≤
      if showFrom = true then origin else 0 := by
    split
    · rename_i h
      rw [if_pos (hfrom h)]
    · split <;> omega
  have htimes : (if longForm' = true then 20 else 0 : Int) ≤ if longForm = true then 20 else 0 := by
    split
    · rename_i h
      rw [if_pos (hlong h)]
    · split <;> omega
  unfold taken
  omega

theorem commandWidth_le {user origin columns columns' : Int} {switches' : Switches}
    (horigin : 0 ≤ origin) (hcolumns : columns ≤ columns')
    (hshort : switches.short = true → switches'.short = true)
    (hfrom : (ofSwitches switches' user origin columns').showFrom = true →
      (ofSwitches switches user origin columns).showFrom = true) :
    (ofSwitches switches user origin columns).commandWidth ≤
      (ofSwitches switches' user origin columns').commandWidth := by
  have hlong : (ofSwitches switches' user origin columns').longForm = true →
      (ofSwitches switches user origin columns).longForm = true := by
    simp only [ofSwitches, Bool.not_eq_true']
    intro h
    cases hs : switches.short with
    | false => rfl
    | true => exact absurd (hshort hs) (by simp [h])
  exact clamp_mono _ _ (Int.sub_le_sub (clamp_mono _ _ hcolumns) (taken_mono horigin hfrom hlong))

theorem showFrom_ofSwitches (switches : Switches) (user origin columns : Int) :
    (ofSwitches switches user origin columns).showFrom = true ↔
      switches.addresses = true ∨ switches.toggleFrom = false := by
  simp [ofSwitches]

/-- The settings, what is told about them and what they are made of. -/
theorem exists_read (h : IsReadable environment) (terminal width : Option Int)
    (switches : Switches) :
    ∃ settings first second,
      read environment terminal width switches = ⟨[], first ++ second, .ok settings⟩ ∧
      IsLengthOf environment userVariable 32 8 settings.userWidth first ∧
      IsLengthOf environment fromVariable 256 16 settings.fromWidth second ∧
      settings = ofSwitches switches settings.userWidth settings.fromWidth
        (columnCount environment terminal width) := by
  obtain ⟨user, first, huser, hfirst⟩ :=
    exists_lengthOf highestUserLength 8 (h userVariable (by simp))
  obtain ⟨origin, second, horigin, hsecond⟩ :=
    exists_lengthOf highestFromLength 16 (h fromVariable (by simp))
  exact ⟨_, first, second, read_eq_of_lengths huser horigin (columnsFor_eq h), hfirst, hsecond, rfl⟩

/-- There are settings in bounds whatever the switches and the width are, and the notices are a
warning for each of the two lengths that is set out of its range. The origin is shown unless it is
switched off, and the command never loses room to a wider report, to a short one or to one without
the origin. -/
theorem read_in_bounds (environment : Text → Option Text) (terminal width : Option Int)
    (switches : Switches) (h : IsReadable environment) :
    ∃ settings first second,
      read environment terminal width switches = ⟨[], first ++ second, .ok settings⟩ ∧
      IsLengthOf environment userVariable 32 8 settings.userWidth first ∧
      IsLengthOf environment fromVariable 256 16 settings.fromWidth second ∧
      (8 ≤ settings.userWidth ∧ settings.userWidth ≤ 32) ∧
      (8 ≤ settings.fromWidth ∧ settings.fromWidth ≤ 256) ∧
      (7 ≤ settings.commandWidth ∧ settings.commandWidth ≤ 512) ∧
      (settings.showFrom = true ↔ switches.addresses = true ∨ switches.toggleFrom = false) ∧
      ∀ environment' terminal' width' switches' notices settings',
        IsReadable environment' →
        read environment' terminal' width' switches' = ⟨[], notices, .ok settings'⟩ →
        settings'.userWidth = settings.userWidth → settings'.fromWidth = settings.fromWidth →
        columnCount environment terminal width ≤ columnCount environment' terminal' width' →
        (switches.short = true → switches'.short = true) →
        (settings'.showFrom = true → settings.showFrom = true) →
        settings.commandWidth ≤ settings'.commandWidth := by
  obtain ⟨settings, first, second, hread, hfirst, hsecond, hsettings⟩ :=
    exists_read h terminal width switches
  have hbounds : settings.InBounds := inBounds_of_read (congrArg Run.result hread)
  refine ⟨settings, first, second, hread, hfirst, hsecond, hbounds.user, hbounds.origin,
    hbounds.command, ?_, ?_⟩
  · rw [hsettings]
    exact showFrom_ofSwitches _ _ _ _
  · intro environment' terminal' width' switches' notices settings' h' hread' huser horigin
      hcolumns hshort hfrom
    obtain ⟨other, _, _, hother, -, -, hsettings'⟩ := exists_read h' terminal' width' switches'
    obtain rfl := Except.ok.inj (congrArg Run.result (hother.symm.trans hread'))
    rw [huser, horigin] at hsettings'
    rw [hsettings, hsettings'] at hfrom ⊢
    have hlow : (8 : Int) ≤ settings.fromWidth := hbounds.origin.1
    exact commandWidth_le (by omega) hcolumns hshort hfrom

/-- A length in the digits of another script, one that is too small, and columns below zero. -/
def oddEnvironment (name : Text) : Option Text :=
  [(userVariable, " +4 chars".toList), (fromVariable, "\u0662\u0660".toList),
    (columnsVariable, "-3".toList)].lookup name

theorem read_in_bounds_of_odd_lengths :
    IsReadable oddEnvironment ∧ ∃ settings,
      read oddEnvironment none none {} =
        ⟨[], [.lengthOutOfRange userVariable 8 32 8], .ok settings⟩ ∧
      settings.userWidth = 8 ∧ settings.fromWidth = 20 ∧ 7 ≤ settings.commandWidth := by
  have hreadable : IsReadable oddEnvironment := by
    simp only [IsReadable, List.forall_mem_cons]
    refine ⟨?_, ?_, ?_, List.forall_mem_nil _⟩
    · rintro raw ⟨⟩
      decide
    · rintro raw ⟨⟩
      decide
    · rintro raw ⟨⟩
      decide
  obtain ⟨settings, first, second, hread, hfirst, hsecond, -, -, ⟨hcommand, -⟩, -⟩ :=
    read_in_bounds oddEnvironment none none {} hreadable
  obtain ⟨huser, rfl⟩ := hfirst.outOfRange " +4 chars".toList (by decide) (by decide)
  obtain ⟨horigin, rfl⟩ := hsecond.inRange "\u0662\u0660".toList (by decide) (by decide) (by decide)
  exact ⟨hreadable, settings, hread, huser, horigin.trans (by decide), hcommand⟩

end LoginReport.Settings
