import LoginReport.Proofs.CommandLine.Spelling
import LoginReport.Proofs.Printout.Clean

set_option autoImplicit false

/-!
# What a command line denotes

The words before two lone dashes are switches where they begin with a dash and go on, and every
other word is an operand. A usable command line denotes the set of its switches and its operand, of
which there is at most one: nothing else of it has a part in the run.
-/

namespace LoginReport.CommandLine

/-- The words before the two dashes that end the switches. -/
def leading (arguments : List Text) : List Text := arguments.takeWhile (· != ['-', '-'])

def trailing (arguments : List Text) : List Text :=
  (arguments.dropWhile (· != ['-', '-'])).drop 1

def operands (arguments : List Text) : List Text :=
  (leading arguments).filter (!isSwitchWord ·) ++ trailing arguments

def Gives (arguments : List Text) (switch : Switch) : Prop :=
  ∃ word ∈ leading arguments, Spells word switch

def HasUnknown (arguments : List Text) : Prop := ∃ word ∈ leading arguments, IsUnknown word

def IsMisused (arguments : List Text) : Prop :=
  HasUnknown arguments ∨ 1 < (operands arguments).length

/-- The command line asks for no text about the command. -/
structure AsksReport (arguments : List Text) : Prop where
  version : ¬Gives arguments .version
  help : ¬Gives arguments .help

variable {word : Text} {rest arguments : List Text} {items : List Item} {switch : Switch}

/-! ## Words one by one -/

theorem leading_cons (h : word ≠ ['-', '-']) : leading (word :: rest) = word :: leading rest :=
  List.takeWhile_cons_of_pos (bne_iff_ne.mpr h)

theorem trailing_cons (h : word ≠ ['-', '-']) : trailing (word :: rest) = trailing rest := by
  have hgoes : (word != ['-', '-']) = true := bne_iff_ne.mpr h
  rw [trailing, List.dropWhile_cons_of_pos (p := (· != ['-', '-'])) hgoes, trailing]

theorem operands_of_switchWord (h : word ≠ ['-', '-']) (hword : isSwitchWord word = true) :
    operands (word :: rest) = operands rest := by
  rw [operands, leading_cons h, trailing_cons h, List.filter_cons_of_neg (by simp [hword]),
    operands]

theorem ne_dashes_of_operand (hword : isSwitchWord word = false) : word ≠ ['-', '-'] := by
  rintro rfl
  cases hword

theorem operands_of_operand (hword : isSwitchWord word = false) :
    operands (word :: rest) = word :: operands rest := by
  have hne := ne_dashes_of_operand hword
  rw [operands, leading_cons hne, trailing_cons hne, List.filter_cons_of_pos (by simp [hword]),
    operands, List.cons_append]

theorem gives_cons_iff (h : word ≠ ['-', '-']) :
    Gives (word :: rest) switch ↔ Spells word switch ∨ Gives rest switch := by
  rw [Gives, leading_cons h, List.exists_mem_cons_iff]
  exact Iff.rfl

theorem hasUnknown_cons_iff (h : word ≠ ['-', '-']) :
    HasUnknown (word :: rest) ↔ IsUnknown word ∨ HasUnknown rest := by
  rw [HasUnknown, leading_cons h, List.exists_mem_cons_iff]
  exact Iff.rfl

theorem items?_of_switchWord (h : word ≠ ['-', '-']) (hword : isSwitchWord word = true) :
    items? (word :: rest) = (switches? word).bind fun given =>
      (items? rest).map (given.map .switch ++ ·) := by
  rw [items?, if_neg h, if_pos hword]
  cases switches? word with
  | none => rfl
  | some given => cases items? rest <;> rfl

theorem items?_of_operand (hword : isSwitchWord word = false) :
    items? (word :: rest) = (items? rest).map (.user word :: ·) := by
  rw [items?, if_neg (ne_dashes_of_operand hword), if_neg (by simp [hword])]

theorem users_append (first second : List Item) :
    users (first ++ second) = users first ++ users second := List.filterMap_append

theorem users_switches (given : List Switch) : users (given.map .switch) = [] := by
  rw [users, List.filterMap_map, List.filterMap_eq_nil_iff]
  exact fun _ _ => rfl

theorem users_names (names : List Text) : users (names.map .user) = names := by
  rw [users, List.filterMap_map]
  exact List.filterMap_some

/-! ## Lines of arguments -/

/-- By the words: a line cannot be read exactly if a word before the dashes is unknown. -/
theorem items?_eq_none_iff : items? arguments = none ↔ HasUnknown arguments := by
  induction arguments with
  | nil => simp [items?, HasUnknown, leading]
  | cons word rest ih =>
    by_cases h : word = ['-', '-']
    · subst h
      simp [items?, HasUnknown, leading]
    cases hword : isSwitchWord word with
    | false =>
      have hknown : ¬IsUnknown word := fun hunknown => by
        rw [hunknown.isSwitchWord] at hword
        cases hword
      rw [items?_of_operand hword, Option.map_eq_none_iff, ih, hasUnknown_cons_iff h]
      exact (or_iff_right hknown).symm
    | true =>
      rw [items?_of_switchWord h hword, hasUnknown_cons_iff h, ← ih,
        ← switches?_eq_none_iff hword]
      cases switches? word <;> simp

/-- The items of a line are its switches and its operands, whatever the spelling. -/
structure Denotes (arguments : List Text) (items : List Item) : Prop where
  switches : ∀ switch, .switch switch ∈ items ↔ Gives arguments switch
  operands : users items = operands arguments

theorem denotes_nil : Denotes [] [] where
  switches := by simp [Gives, leading]
  operands := rfl

theorem denotes_dashes (rest : List Text) :
    Denotes (['-', '-'] :: rest) (rest.map .user) where
  switches := by simp [Gives, leading]
  operands := users_names rest

theorem Denotes.cons_operand (h : Denotes rest items) (hword : isSwitchWord word = false) :
    Denotes (word :: rest) (.user word :: items) where
  switches := by
    intro switch
    have hknown : ¬Spells word switch := fun hspells => by
      rw [hspells.isSwitchWord] at hword
      cases hword
    rw [gives_cons_iff (ne_dashes_of_operand hword), or_iff_right hknown, ← h.switches]
    simp
  operands := by
    rw [operands_of_operand hword, ← h.operands]
    rfl

theorem Denotes.cons_switchWord {given : List Switch} (h : Denotes rest items)
    (hne : word ≠ ['-', '-']) (hword : isSwitchWord word = true)
    (hgiven : switches? word = some given) :
    Denotes (word :: rest) (given.map .switch ++ items) where
  switches := by
    intro switch
    rw [gives_cons_iff hne, ← mem_switches?_iff hword hgiven, ← h.switches, List.mem_append]
    simp
  operands := by
    rw [operands_of_switchWord hne hword, users_append, users_switches, h.operands,
      List.nil_append]

/-- By the words, each of which adds what it spells. -/
theorem denotes_items (h : items? arguments = some items) : Denotes arguments items := by
  induction arguments generalizing items with
  | nil =>
    obtain rfl := Option.some.inj h
    exact denotes_nil
  | cons word rest ih =>
    by_cases hne : word = ['-', '-']
    · subst hne
      obtain rfl := Option.some.inj h
      exact denotes_dashes rest
    cases hword : isSwitchWord word with
    | false =>
      rw [items?_of_operand hword] at h
      obtain ⟨more, hrest, rfl⟩ := Option.map_eq_some_iff.mp h
      exact (ih hrest).cons_operand hword
    | true =>
      rw [items?_of_switchWord hne hword] at h
      obtain ⟨given, hgiven, hmore⟩ := Option.bind_eq_some_iff.mp h
      obtain ⟨more, hrest, rfl⟩ := Option.map_eq_some_iff.mp hmore
      exact (ih hrest).cons_switchWord hne hword hgiven

/-! ## Requests -/

theorem request?_eq_none_iff :
    request? items = none ↔ .switch .version ∉ items ∧ .switch .help ∉ items := by
  rw [request?, List.findSome?_eq_none_iff]
  constructor
  · intro h
    constructor
    · intro hversion
      cases h _ hversion
    · intro hhelp
      cases h _ hhelp
  · rintro ⟨hversion, hhelp⟩ item hitem
    split
    · exact absurd hitem hversion
    · exact absurd hitem hhelp
    · rfl

theorem Denotes.asksReport_iff (h : Denotes arguments items) :
    AsksReport arguments ↔ request? items = none := by
  rw [request?_eq_none_iff, h.switches, h.switches]
  exact ⟨fun hreport => ⟨hreport.version, hreport.help⟩, fun hnone => ⟨hnone.1, hnone.2⟩⟩

theorem isMisused_iff (hitems : items? arguments = some items) :
    IsMisused arguments ↔ 1 < (users items).length := by
  have hknown : ¬HasUnknown arguments := fun hunknown => by
    rw [items?_eq_none_iff.mpr hunknown] at hitems
    cases hitems
  rw [IsMisused, or_iff_right hknown, (denotes_items hitems).operands]

theorem request_of_misused (hreport : AsksReport arguments) (h : IsMisused arguments) :
    request arguments = .unusable := by
  unfold request
  cases hitems : items? arguments with
  | none => rfl
  | some items =>
    rw [isMisused_iff hitems] at h
    rw [(denotes_items hitems).asksReport_iff] at hreport
    dsimp only
    rw [hreport]
    match husers : users items with
    | [] => simp [husers] at h
    | [user] => simp [husers] at h
    | _ :: _ :: _ => rfl

theorem request_of_items (hitems : items? arguments = some items)
    (hreport : AsksReport arguments) (h : ¬IsMisused arguments) :
    request arguments =
      .report (reportSwitches items (operands arguments).head?) (has items .debug) := by
  have hdenotes := denotes_items hitems
  rw [isMisused_iff hitems] at h
  rw [hdenotes.asksReport_iff] at hreport
  rw [← hdenotes.operands]
  unfold request
  rw [hitems]
  dsimp only
  rw [hreport]
  match husers : users items with
  | [] => rfl
  | [user] => rfl
  | _ :: _ :: _ =>
    rw [husers] at h
    exact absurd (by simp) h

theorem exists_items (h : ¬IsMisused arguments) : ∃ items, items? arguments = some items := by
  cases hitems : items? arguments with
  | none => exact absurd (Or.inl (items?_eq_none_iff.mp hitems)) h
  | some items => exact ⟨items, rfl⟩

theorem Denotes.has_iff (h : Denotes arguments items) (switch : Switch) :
    has items switch = true ↔ Gives arguments switch := by
  rw [has, List.contains_iff_mem, h.switches]

theorem has_eq_of_gives {others : List Text} {more : List Item} (h : Denotes arguments items)
    (h' : Denotes others more) (hsame : ∀ switch, Gives arguments switch ↔ Gives others switch) :
    has items = has more := by
  funext switch
  rw [Bool.eq_iff_iff, h.has_iff, h'.has_iff, hsame]

theorem reportSwitches_congr {more : List Item} (h : has items = has more) (user : Option Text) :
    reportSwitches items user = reportSwitches more user := by
  rw [reportSwitches, reportSwitches, h]

theorem status_outcome_ne_two (run : Run Unit) (debugging : Bool) :
    (outcome run debugging).status ≠ 2 := by
  unfold outcome
  split <;> simp

/-- Two usable command lines with the same switches and the same operand, if any, are the same
command. A command line is unusable exactly if it has an unknown word or a second operand. -/
theorem execute_determined (machine : Machine) :
    (∀ first second : List Text, AsksReport first → AsksReport second → ¬IsMisused first →
      ¬IsMisused second → (∀ switch, Gives first switch ↔ Gives second switch) →
      operands first = operands second → execute machine first = execute machine second) ∧
    ∀ arguments : List Text, AsksReport arguments →
      ((execute machine arguments).status = 2 ∧ output (execute machine arguments) = [] ↔
        IsMisused arguments) := by
  constructor
  · intro first second hfirst hsecond hused hused' hswitches hoperands
    obtain ⟨items, hitems⟩ := exists_items hused
    obtain ⟨more, hmore⟩ := exists_items hused'
    have hhas := has_eq_of_gives (denotes_items hitems) (denotes_items hmore) hswitches
    have hrequest : request first = request second := by
      rw [request_of_items hitems hfirst hused, request_of_items hmore hsecond hused',
        hoperands, hhas, reportSwitches_congr hhas]
    rw [execute, execute, hrequest]
  · intro arguments hreport
    constructor
    · rintro ⟨hstatus, -⟩
      by_contra hused
      obtain ⟨items, hitems⟩ := exists_items hused
      rw [execute, request_of_items hitems hreport hused] at hstatus
      exact status_outcome_ne_two _ _ hstatus
    · intro hmisused
      rw [execute, request_of_misused hreport hmisused]
      exact ⟨rfl, rfl⟩

/-- Letters that share a dash, with one of them twice, and the same switches by their names. -/
def clusterWords : List Text := ["-sfs", "u"].map String.toList

def nameWords : List Text := ["u", "--from", "--short"].map String.toList

def valueWords : List Text := ["--short=x"].map String.toList

theorem not_gives_valueWords (switch : Switch) : ¬Gives valueWords switch := by
  rintro ⟨word, hword, hspells⟩
  obtain rfl := List.mem_singleton.mp hword
  cases spells_name_iff.mp hspells

theorem execute_cluster_words :
    AsksReport clusterWords ∧ AsksReport nameWords ∧ ¬IsMisused clusterWords ∧
      ¬IsMisused nameWords ∧ (∀ switch, Gives clusterWords switch ↔ Gives nameWords switch) ∧
      operands clusterWords = operands nameWords ∧
      execute Machine.withPlainLogin clusterWords = execute Machine.withPlainLogin nameWords ∧
      AsksReport valueWords ∧ (execute Machine.withPlainLogin valueWords).status = 2 ∧
      output (execute Machine.withPlainLogin valueWords) = [] ∧ IsMisused valueWords := by
  have hcluster : items? clusterWords = some [.switch .short, .switch .toggleFrom, .switch .short,
    .user ['u']] := by decide
  have hname : items? nameWords = some [.user ['u'], .switch .toggleFrom, .switch .short] := by
    decide
  have hvalue : AsksReport valueWords := ⟨not_gives_valueWords _, not_gives_valueWords _⟩
  have hsame : ∀ switch, Gives clusterWords switch ↔ Gives nameWords switch := by
    intro switch
    rw [← (denotes_items hcluster).switches, ← (denotes_items hname).switches]
    cases switch <;> decide
  have hreport : AsksReport clusterWords := (denotes_items hcluster).asksReport_iff.mpr rfl
  have hreport' : AsksReport nameWords := (denotes_items hname).asksReport_iff.mpr rfl
  have hused : ¬IsMisused clusterWords := mt (isMisused_iff hcluster).mp (by decide)
  have hused' : ¬IsMisused nameWords := mt (isMisused_iff hname).mp (by decide)
  have hoperands : operands clusterWords = operands nameWords := by decide
  obtain ⟨hequal, hmisused⟩ := execute_determined Machine.withPlainLogin
  exact ⟨hreport, hreport', hused, hused', hsame, hoperands,
    hequal _ _ hreport hreport' hused hused' hsame hoperands, hvalue, rfl, rfl,
    (hmisused _ hvalue).mp ⟨rfl, rfl⟩⟩

end LoginReport.CommandLine
