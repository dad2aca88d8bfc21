import LoginReport.Printout
import LoginReport.Proofs.Machine
import LoginReport.Proofs.Table.Columns
import LoginReport.Proofs.Text.Offset
import Mathlib.Control.Monad.Basic

set_option autoImplicit false

/-!
# Rows under their titles

The line of titles and the rows are laid out apart from each other. With settings in bounds every
title still begins where its column does, in either form and with or without the origin, and the
last title begins where the command does.
-/

namespace LoginReport.Table

variable {settings : Settings}

def userTitle (settings : Settings) : Text := Text.padRight "USER".toList settings.userWidth ' '

def ttyTitle : Text := " TTY      ".toList

def originTitle (settings : Settings) : Text :=
  if settings.showFrom then Text.padRight "FROM".toList settings.fromWidth ' ' else []

/-- The titles between the origin and the command. -/
def timeTitles (settings : Settings) : Text :=
  if settings.longForm then " LOGIN@   IDLE   JCPU   PCPU  ".toList else "   IDLE ".toList

theorem userTitle_ok (hbounds : settings.InBounds) :
    column "USER".toList settings.userWidth = .ok (userTitle settings) := by
  obtain ⟨hlow, hhigh⟩ := hbounds.user
  unfold Settings.lowestLength at hlow
  unfold Settings.highestUserLength at hhigh
  exact column_ok _ _ (by omega) (by unfold Settings.highestFromLength; omega)

theorem originTitle_ok (hbounds : settings.InBounds) (hshown : settings.showFrom = true) :
    column "FROM".toList settings.fromWidth = .ok (originTitle settings) := by
  obtain ⟨hlow, hhigh⟩ := hbounds.origin
  unfold Settings.lowestLength at hlow
  rw [originTitle, if_pos hshown]
  exact column_ok _ _ (by omega) hhigh

/-- The line of titles, as it is laid out. -/
def titleLine (settings : Settings) : Text :=
  userTitle settings ++ ttyTitle ++ originTitle settings ++ timeTitles settings ++ "WHAT".toList

theorem titles_ok (hbounds : settings.InBounds) : titles settings = .ok (titleLine settings) := by
  have hrest : (if settings.longForm then " LOGIN@   IDLE   JCPU   PCPU  WHAT" else
      "   IDLE WHAT").toList = timeTitles settings ++ "WHAT".toList := by
    unfold timeTitles
    split_ifs <;> rfl
  unfold titles titleLine
  refine (bind_eq_ok _ _ _).mpr ⟨_, userTitle_ok hbounds, ?_⟩
  dsimp only
  rw [hrest, List.append_assoc _ (timeTitles settings)]
  by_cases hshown : settings.showFrom = true
  · rw [if_pos hshown]
    exact (bind_eq_ok _ _ _).mpr ⟨_, originTitle_ok hbounds hshown, rfl⟩
  · rw [if_neg hshown, originTitle, if_neg hshown]
    rfl

theorem length_userTitle (hbounds : settings.InBounds) :
    ((userTitle settings).length : Int) = settings.userWidth := by
  obtain ⟨hlow, -⟩ := hbounds.user
  unfold Settings.lowestLength at hlow
  have hfour : "USER".toList.length = 4 := rfl
  rw [userTitle, Text.length_padRight, hfour]
  omega

theorem length_originTitle (hbounds : settings.InBounds) :
    ((originTitle settings).length : Int) =
      if settings.showFrom then settings.fromWidth else 0 := by
  obtain ⟨hlow, -⟩ := hbounds.origin
  unfold Settings.lowestLength at hlow
  have hfour : "FROM".toList.length = 4 := rfl
  unfold originTitle
  by_cases hshown : settings.showFrom = true
  · rw [if_pos hshown, if_pos hshown, Text.length_padRight, hfour]
    omega
  · rw [if_neg hshown, if_neg hshown]
    rfl

theorem mem_userTitle {c : Char} (h : c ∈ userTitle settings) : c ∈ "USER ".toList := by
  rcases Text.mem_padRight h with hc | rfl
  · exact List.mem_append_left [' '] hc
  · decide

theorem mem_originTitle {c : Char} (h : c ∈ originTitle settings) : c ∈ "FROM ".toList := by
  unfold originTitle at h
  by_cases hshown : settings.showFrom = true
  · rw [if_pos hshown] at h
    rcases Text.mem_padRight h with hc | rfl
    · exact List.mem_append_left [' '] hc
    · decide
  · rw [if_neg hshown] at h
    cases h

theorem not_mem_left_titles {c : Char} (huser : c ∉ "USER ".toList) (htty : c ∉ ttyTitle)
    (horigin : c ∉ "FROM ".toList) :
    c ∉ userTitle settings ++ ttyTitle ++ originTitle settings := by
  refine List.not_mem_append (List.not_mem_append ?_ htty) ?_
  · exact fun hc => huser (mem_userTitle hc)
  · exact fun hc => horigin (mem_originTitle hc)

theorem offset?_tty (settings : Settings) :
    Text.offset? "TTY".toList (titleLine settings) = some ((userTitle settings).length + 1) := by
  have huser : 'T' ∉ userTitle settings := fun hc => absurd (mem_userTitle hc) (by decide)
  have hnew : 'T' ∉ userTitle settings ++ [' '] ++ [] :=
    List.not_mem_append (List.not_mem_append huser (by decide)) (by decide)
  have hline : titleLine settings = userTitle settings ++ [' '] ++
      ("TTY".toList ++ ("      ".toList ++ (originTitle settings ++ (timeTitles settings ++
        "WHAT".toList)))) := by
    have htty : ttyTitle = [' '] ++ "TTY".toList ++ "      ".toList := by decide
    rw [titleLine, htty]
    simp only [List.append_assoc]
  have hpart : "TTY".toList = [] ++ 'T' :: "TY".toList := by decide
  rw [Text.offset?_of_new hpart hline hnew, List.length_append]
  rfl

theorem offset?_from (hshown : settings.showFrom = true) :
    Text.offset? "FROM".toList (titleLine settings) =
      some (userTitle settings ++ ttyTitle).length := by
  have huser : 'F' ∉ userTitle settings := fun hc => absurd (mem_userTitle hc) (by decide)
  have hnew : 'F' ∉ userTitle settings ++ ttyTitle ++ [] :=
    List.not_mem_append (List.not_mem_append huser (by decide)) (by decide)
  have hline : titleLine settings = userTitle settings ++ ttyTitle ++
      ("FROM".toList ++ (List.replicate (settings.fromWidth.toNat - 4) ' ' ++
        (timeTitles settings ++ "WHAT".toList))) := by
    simp [titleLine, originTitle, hshown, Text.padRight]
  have hpart : "FROM".toList = [] ++ 'F' :: "ROM".toList := by decide
  exact Text.offset?_of_new hpart hline hnew

theorem offset?_login (hlong : settings.longForm = true) :
    Text.offset? " LOGIN@".toList (titleLine settings) =
      some (userTitle settings ++ ttyTitle ++ originTitle settings).length := by
  have hnew : 'L' ∉ userTitle settings ++ ttyTitle ++ originTitle settings ++ [' '] :=
    List.not_mem_append (not_mem_left_titles (by decide) (by decide) (by decide)) (by decide)
  have hline : titleLine settings = userTitle settings ++ ttyTitle ++ originTitle settings ++
      (" LOGIN@".toList ++ "   IDLE   JCPU   PCPU  WHAT".toList) := by
    simp [titleLine, timeTitles, hlong]
  have hpart : " LOGIN@".toList = [' '] ++ 'L' :: "OGIN@".toList := by decide
  exact Text.offset?_of_new hpart hline hnew

theorem offset?_idle (hshort : settings.longForm = false) :
    Text.offset? "   IDLE".toList (titleLine settings) =
      some (userTitle settings ++ ttyTitle ++ originTitle settings).length := by
  have hnew : 'I' ∉ userTitle settings ++ ttyTitle ++ originTitle settings ++ "   ".toList :=
    List.not_mem_append (not_mem_left_titles (by decide) (by decide) (by decide)) (by decide)
  have hline : titleLine settings = userTitle settings ++ ttyTitle ++ originTitle settings ++
      ("   IDLE".toList ++ " WHAT".toList) := by
    simp [titleLine, timeTitles, hshort]
  have hpart : "   IDLE".toList = "   ".toList ++ 'I' :: "DLE".toList := by decide
  exact Text.offset?_of_new hpart hline hnew

theorem offset?_what (settings : Settings) :
    Text.offset? "WHAT".toList (titleLine settings) =
      some (userTitle settings ++ ttyTitle ++ originTitle settings ++
        timeTitles settings).length := by
  have hleft : 'W' ∉ userTitle settings ++ ttyTitle ++ originTitle settings :=
    not_mem_left_titles (by decide) (by decide) (by decide)
  have htimes : 'W' ∉ timeTitles settings := by
    unfold timeTitles
    split_ifs <;> decide
  have hnew : 'W' ∉ userTitle settings ++ ttyTitle ++ originTitle settings ++
      timeTitles settings ++ [] :=
    List.not_mem_append (List.not_mem_append hleft htimes) (by decide)
  have hline : titleLine settings = userTitle settings ++ ttyTitle ++ originTitle settings ++
      timeTitles settings ++ ("WHAT".toList ++ []) := by
    rw [List.append_nil, titleLine]
  have hpart : "WHAT".toList = [] ++ 'W' :: "HAT".toList := by decide
  exact Text.offset?_of_new hpart hline hnew

theorem length_left_titles (hbounds : settings.InBounds) :
    ((userTitle settings ++ ttyTitle).length : Int) = settings.userWidth + 10 := by
  have huser := length_userTitle hbounds
  have htty : ttyTitle.length = 10 := rfl
  rw [List.length_append, htty]
  omega

theorem length_timeTitles (settings : Settings) :
    (timeTitles settings).length = if settings.longForm then 30 else 8 := by
  unfold timeTitles
  split_ifs <;> rfl

/-- The columns of a row begin where their titles do. Behind the terminal the next column is the
origin, or else the login time, or else the idle time. -/
structure UnderTitles (settings : Settings) (titles user tty origin login rest : Text) : Prop where
  userEnd : (user.length : Int) = settings.userWidth + 1
  ttyStart : Text.offset? "TTY".toList titles = some user.length
  ttyEnd : ((user ++ tty).length : Int) = settings.userWidth + 10
  originStart : settings.showFrom = true →
    Text.offset? "FROM".toList titles = some (user ++ tty).length
  noOrigin : settings.showFrom = false → origin = []
  loginStart : settings.longForm = true → login.length = 8 ∧
    Text.offset? " LOGIN@".toList titles = some (user ++ tty ++ origin).length
  noLogin : settings.longForm = false → login = [] ∧
    Text.offset? "   IDLE".toList titles = some (user ++ tty ++ origin).length
  commandStart : Text.offset? "WHAT".toList titles =
    some (user ++ tty ++ origin ++ login ++ rest).length

theorem underTitles {user tty origin login rest : Text} (hbounds : settings.InBounds)
    (huser : (user.length : Int) = settings.userWidth + 1) (htty : tty.length = 9)
    (horigin : (origin.length : Int) = if settings.showFrom then settings.fromWidth else 0)
    (hlogin : (login.length : Int) = if settings.longForm then 8 else 0)
    (hrest : rest.length = if settings.longForm then 22 else 8) :
    UnderTitles settings (titleLine settings) user tty origin login rest := by
  have hleft := length_left_titles hbounds
  have hlengthUser := length_userTitle hbounds
  have hlengthOrigin := length_originTitle hbounds
  have htimes := length_timeTitles settings
  have httyTitle : ttyTitle.length = 10 := rfl
  simp only [List.length_append] at hleft
  have hbefore : (userTitle settings ++ ttyTitle).length = (user ++ tty).length := by
    simp only [List.length_append]
    omega
  have hthrough : (userTitle settings ++ ttyTitle ++ originTitle settings).length =
      (user ++ tty ++ origin).length := by
    simp only [List.length_append]
    omega
  have hlast : (timeTitles settings).length = login.length + rest.length := by
    rw [htimes, hrest]
    split_ifs at hlogin ⊢ <;> omega
  refine ⟨huser, ?_, ?_, ?_, ?_, ?_, ?_, ?_⟩
  · rw [offset?_tty, Option.some.injEq]
    omega
  · rw [← hbefore, List.length_append]
    exact hleft
  · intro hshown
    rw [offset?_from hshown, hbefore]
  · intro hhidden
    rw [hhidden] at horigin
    exact List.eq_nil_of_length_eq_zero (Int.ofNat.inj horigin)
  · intro hlong
    rw [hlong] at hlogin
    rw [offset?_login hlong, hthrough]
    exact ⟨Int.ofNat.inj hlogin, rfl⟩
  · intro hshort
    rw [hshort] at hlogin
    rw [offset?_idle hshort, hthrough]
    exact ⟨List.eq_nil_of_length_eq_zero (Int.ofNat.inj hlogin), rfl⟩
  · rw [offset?_what, Option.some.injEq]
    simp only [List.length_append] at hthrough ⊢
    omega

/-- Whatever the switches and the environment are, a row without process numbers begins with fixed
columns under their titles, the last of them a space, and the command stands under its own. -/
theorem row_under_titles (environment : Text → Option Text) (terminal width : Option Int)
    (switches : Switches) (settings : Settings) (machine : Machine) (session : LoginSession)
    (shown : Activity) (now : Binary64) (uptime : Text)
    (hread : (Settings.read environment terminal width switches).result = .ok settings)
    (hpids : settings.pids = false) (hfits : Fits machine session shown settings now) :
    ∃ titles user origin login rest,
      Printout.header settings uptime = .ok [uptime, titles] ∧
      Table.user session settings = .ok user ∧
      Table.origin session settings = .ok origin ∧
      Table.login machine session settings now = .ok login ∧
      row machine session shown settings 100 now =
        .ok (user ++ tty session ++ origin ++ login ++ rest ++
          shown.command.take settings.commandWidth.toNat) ∧
      rest.getLast? = some ' ' ∧
      UnderTitles settings titles user (tty session) origin login rest := by
  obtain ⟨-, -, -, -, columns, hcolumns, -⟩ := Settings.read_eq_ok_iff.mp hread
  obtain ⟨hbounds, -⟩ := Settings.ofSwitches_of_read hread hcolumns
  obtain ⟨user, origin, login, rest, ⟨huser, hlengthUser⟩, ⟨horigin, hlengthOrigin⟩,
    ⟨hlogin, hlengthLogin⟩, hlengthRest, hrow⟩ := row_columns hbounds hfits
  have hcommand : command shown settings (pids session shown settings) =
      [' '] ++ shown.command.take settings.commandWidth.toNat := by
    have hnone : pids session shown settings = [] := by simp [pids, hpids]
    have hwidth := hbounds.command
    rw [hnone, command, commandWidth, if_pos (by simp [hpids]), Text.cut, if_pos (by omega)]
    rfl
  rw [hcommand, ← List.append_assoc, List.append_assoc _ rest] at hrow
  have hheader : Printout.header settings uptime = .ok [uptime, titleLine settings] := by
    rw [Printout.header, titles_ok hbounds]
    rfl
  refine ⟨titleLine settings, user, origin, login, rest ++ [' '], hheader, huser, horigin, hlogin,
    hrow, List.getLast?_concat, ?_⟩
  refine underTitles hbounds hlengthUser (length_tty session) hlengthOrigin hlengthLogin ?_
  rw [List.length_append, hlengthRest]
  split_ifs <;> rfl

theorem row_under_wide_user_titles : ∃ titles user origin login rest,
    Printout.header (Settings.ofSwitches {} 12 16 80) [] = .ok [[], titles] ∧
    Table.user (LoginSession.ofLeader 1000 100) (Settings.ofSwitches {} 12 16 80) = .ok user ∧
    Table.origin (LoginSession.ofLeader 1000 100) (Settings.ofSwitches {} 12 16 80) = .ok origin ∧
    Table.login (Machine.bare.withTerminal 5) (LoginSession.ofLeader 1000 100)
      (Settings.ofSwitches {} 12 16 80) .zero = .ok login ∧
    row (Machine.bare.withTerminal 5) (LoginSession.ofLeader 1000 100)
      { found := true, terminalTicks := 250, ticks := 120, command := "top".toList }
      (Settings.ofSwitches {} 12 16 80) 100 .zero =
        .ok (user ++ tty (LoginSession.ofLeader 1000 100) ++ origin ++ login ++ rest ++
          "top".toList) ∧
    rest.getLast? = some ' ' ∧
    UnderTitles (Settings.ofSwitches {} 12 16 80) titles user
      (tty (LoginSession.ofLeader 1000 100)) origin login rest := by
  have hfits : Fits (Machine.bare.withTerminal 5) (LoginSession.ofLeader 1000 100)
      { found := true, terminalTicks := 250, ticks := 120, command := "top".toList }
      (Settings.ofSwitches {} 12 16 80) .zero :=
    { login := fun _ => ⟨" 00:00  ".toList, by decide +kernel⟩
      idle := fun _ => ⟨0, by decide +kernel, by decide⟩
      terminalTicks := by decide
      ticks := by decide }
  exact row_under_titles
    (fun name => if name = "PROCPS_USERLEN".toList then some "12".toList else none) none (some 80)
    {} _ _ _ _ _ [] rfl rfl hfits

end LoginReport.Table
