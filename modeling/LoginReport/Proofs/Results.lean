import LoginReport.Run

set_option autoImplicit false

/-!
# What an end says about the steps

A value comes out of a sequence of steps if and only if every step gave one, and a fault is that of
the first step that gave none. What a run prints is what its steps print until then.
-/

namespace LoginReport

theorem bind_eq_ok {ε α β : Type} (x : Except ε α) (next : α → Except ε β) (b : β) :
    (x >>= next) = .ok b ↔ ∃ a, x = .ok a ∧ next a = .ok b := by
  cases x with
  | error fault => simp [Bind.bind, Except.bind]
  | ok a => simp [Bind.bind, Except.bind]

theorem pure_eq_ok {ε α : Type} (a b : α) :
    (Pure.pure a : Except ε α) = .ok b ↔ a = b := by
  change Except.ok a = Except.ok b ↔ a = b
  rw [Except.ok.injEq]

theorem map_eq_ok {ε α β : Type} (x : Except ε α) (f : α → β) (b : β) :
    x.map f = .ok b ↔ ∃ a, x = .ok a ∧ f a = b := by
  cases x with
  | error fault => simp [Except.map]
  | ok a => simp [Except.map]

theorem mapError_eq_ok {ε ε' α : Type} (x : Except ε α) (f : ε → ε') (a : α) :
    x.mapError f = .ok a ↔ x = .ok a := by
  cases x with
  | error fault =>
    constructor
    · intro h
      cases h
    · intro h
      cases h
  | ok b =>
    change Except.ok b = Except.ok a ↔ Except.ok b = Except.ok a
    rw [Except.ok.injEq, Except.ok.injEq]

theorem bind_eq_error {ε α β : Type} (x : Except ε α) (next : α → Except ε β) (fault : ε) :
    (x >>= next) = .error fault ↔
      x = .error fault ∨ ∃ a, x = .ok a ∧ next a = .error fault := by
  cases x with
  | error cause => simp [Bind.bind, Except.bind]
  | ok a => simp [Bind.bind, Except.bind]

theorem pure_ne_error {ε α : Type} (a : α) (fault : ε) :
    (Pure.pure a : Except ε α) ≠ .error fault := by
  intro h
  cases h

theorem mapError_eq_error {ε ε' α : Type} (x : Except ε α) (f : ε → ε') (fault : ε') :
    x.mapError f = .error fault ↔ ∃ cause, x = .error cause ∧ f cause = fault := by
  cases x with
  | error cause =>
    change Except.error (f cause) = Except.error fault ↔ _
    simp
  | ok a =>
    change Except.ok a = Except.error fault ↔ _
    simp

theorem exists_ok_bind {ε α β : Type} {x : Except ε α} {next : α → Except ε β}
    (h : ∃ a, x = .ok a) (hnext : ∀ a, x = .ok a → ∃ b, next a = .ok b) :
    ∃ b, (x >>= next) = .ok b := by
  obtain ⟨a, ha⟩ := h
  obtain ⟨b, hb⟩ := hnext a ha
  exact ⟨b, (bind_eq_ok x next b).mpr ⟨a, ha, hb⟩⟩

theorem exists_ok_mapError {ε ε' α : Type} {x : Except ε α} (h : ∃ a, x = .ok a) (f : ε → ε') :
    ∃ a, x.mapError f = .ok a := by
  obtain ⟨a, ha⟩ := h
  exact ⟨a, (mapError_eq_ok x f a).mpr ha⟩

theorem exists_ok_map {ε α β : Type} {x : Except ε α} (h : ∃ a, x = .ok a) (f : α → β) :
    ∃ b, x.map f = .ok b := by
  obtain ⟨a, ha⟩ := h
  exact ⟨f a, (map_eq_ok x f (f a)).mpr ⟨a, ha, rfl⟩⟩

/-- A traversal fails at the first element that gives a fault. -/
theorem mapM_eq_error {ε α β : Type} (f : α → Except ε β) (l : List α) (fault : ε) :
    l.mapM f = .error fault ↔ ∃ before x after, l = before ++ x :: after ∧
      (∀ earlier ∈ before, ∃ b, f earlier = .ok b) ∧ f x = .error fault := by
  induction l with
  | nil => simp [pure_ne_error]
  | cons first rest ih =>
    rw [List.mapM_cons, bind_eq_error]
    simp only [bind_eq_error, pure_ne_error, and_false, exists_false, or_false]
    constructor
    · rintro (hfirst | ⟨b, hfirst, hrest⟩)
      · exact ⟨[], first, rest, rfl, List.forall_mem_nil _, hfirst⟩
      · obtain ⟨before, x, after, rfl, hbefore, hx⟩ := ih.mp hrest
        exact ⟨first :: before, x, after, rfl, List.forall_mem_cons.mpr ⟨⟨b, hfirst⟩, hbefore⟩, hx⟩
    · rintro ⟨before, x, after, hsplit, hbefore, hx⟩
      cases before with
      | nil =>
        obtain ⟨rfl, rfl⟩ := List.cons.inj hsplit
        exact Or.inl hx
      | cons earlier before =>
        obtain ⟨rfl, rfl⟩ := List.cons.inj hsplit
        obtain ⟨⟨b, hb⟩, hbefore⟩ := List.forall_mem_cons.mp hbefore
        exact Or.inr ⟨b, hb, ih.mpr ⟨before, x, after, rfl, hbefore, hx⟩⟩

theorem bind_mapError_error {ε ε' α β : Type} {x : Except ε α} {fault : ε} (h : x = .error fault)
    (f : ε → ε') (next : α → Except ε' β) : (x.mapError f >>= next) = .error (f fault) := by
  rw [h]
  rfl

theorem bind_mapError_ok {ε ε' α β : Type} {x : Except ε α} {a : α} (h : x = .ok a) (f : ε → ε')
    (next : α → Except ε' β) : (x.mapError f >>= next) = next a := by
  rw [h]
  rfl

theorem Run.result_pure_eq_ok {α : Type} (a b : α) :
    (Pure.pure a : Run α).result = .ok b ↔ a = b := by
  change Except.ok a = Except.ok b ↔ a = b
  rw [Except.ok.injEq]

theorem Run.result_bind_eq_ok {α β : Type} (run : Run α) (next : α → Run β) (b : β) :
    (run >>= next).result = .ok b ↔ ∃ a, run.result = .ok a ∧ (next a).result = .ok b := by
  change (Run.bind run next).result = _ ↔ _
  unfold Run.bind
  cases run.result with
  | error fault => simp
  | ok a => simp

/-- Every fault that the result can be is of this kind. -/
def FaultsAre {α : Type} (kind : Fault → Prop) (result : Except Fault α) : Prop :=
  ∀ fault, result = .error fault → kind fault

namespace FaultsAre

variable {α β : Type} {kind : Fault → Prop}

theorem ok (a : α) : FaultsAre kind (.ok a) := by
  intro fault h
  cases h

theorem of_ok {result : Except Fault α} (h : ∃ a, result = .ok a) : FaultsAre kind result := by
  obtain ⟨a, rfl⟩ := h
  exact ok a

theorem mono {other : Fault → Prop} {result : Except Fault α} (h : FaultsAre kind result)
    (hkind : ∀ fault, kind fault → other fault) : FaultsAre other result :=
  fun fault hfault => hkind fault (h fault hfault)

theorem bind {result : Except Fault α} {next : α → Except Fault β} (h : FaultsAre kind result)
    (hnext : ∀ a, result = .ok a → FaultsAre kind (next a)) :
    FaultsAre kind (result >>= next) := by
  intro fault hfault
  rcases (bind_eq_error _ _ _).mp hfault with hfirst | ⟨a, ha, hsecond⟩
  · exact h fault hfirst
  · exact hnext a ha fault hsecond

theorem map {result : Except Fault α} (h : FaultsAre kind result) (f : α → β) :
    FaultsAre kind (result.map f) := by
  intro fault hfault
  cases result with
  | error cause =>
    obtain rfl := Except.error.inj hfault
    exact h cause rfl
  | ok a => cases hfault

theorem mapError {ε : Type} {f : ε → Fault} (h : ∀ cause, kind (f cause)) (result : Except ε α) :
    FaultsAre kind (result.mapError f) := by
  intro fault hfault
  obtain ⟨cause, -, rfl⟩ := (mapError_eq_error _ _ _).mp hfault
  exact h cause

theorem run_bind {run : Run α} {next : α → Run β} (h : FaultsAre kind run.result)
    (hnext : ∀ a, run.result = .ok a → FaultsAre kind (next a).result) :
    FaultsAre kind (run >>= next).result := by
  change FaultsAre kind (Run.bind run next).result
  unfold Run.bind
  cases hresult : run.result with
  | error cause =>
    intro fault hfault
    obtain rfl := Except.error.inj hfault
    exact h cause hresult
  | ok a => exact hnext a hresult

end FaultsAre

namespace Run

variable {α β : Type}

/-- Neither step prints a line. -/
theorem bind_of_silent {run : Run α} {next : α → Run β} {first second : List Notice} {a : α}
    {result : Except Fault β} (h : run = ⟨[], first, .ok a⟩)
    (hnext : next a = ⟨[], second, result⟩) : (run >>= next) = ⟨[], first ++ second, result⟩ := by
  change bind run next = _
  rw [h, bind_ok, hnext]
  rfl

/-- The run comes to a good end and has printed these lines. -/
def Ends (run : Run α) (lines : List Text) (a : α) : Prop := run.result = .ok a ∧ run.lines = lines

theorem ends_bind {run : Run α} {next : α → Run β} {lines : List Text} {b : β} :
    (run >>= next).Ends lines b ↔ ∃ a first second,
      run.Ends first a ∧ (next a).Ends second b ∧ first ++ second = lines := by
  change (bind run next).Ends lines b ↔ _
  unfold Ends bind
  cases run.result with
  | error fault => simp
  | ok a =>
    constructor
    · rintro ⟨hresult, rfl⟩
      exact ⟨a, run.lines, (next a).lines, ⟨rfl, rfl⟩, ⟨hresult, rfl⟩, rfl⟩
    · rintro ⟨a', first, second, ⟨ha, rfl⟩, ⟨hresult, rfl⟩, rfl⟩
      obtain rfl := Except.ok.inj ha
      exact ⟨hresult, rfl⟩

/-- The run fails and has printed these lines before. -/
def Fails (run : Run α) (lines : List Text) (fault : Fault) : Prop :=
  run.result = .error fault ∧ run.lines = lines

theorem fails_bind {run : Run α} {next : α → Run β} {lines : List Text} {fault : Fault} :
    (run >>= next).Fails lines fault ↔ run.Fails lines fault ∨ ∃ a first second,
      run.Ends first a ∧ (next a).Fails second fault ∧ first ++ second = lines := by
  change (bind run next).Fails lines fault ↔ _
  unfold Ends Fails bind
  cases run.result with
  | error cause => simp
  | ok a =>
    constructor
    · rintro ⟨hresult, rfl⟩
      exact Or.inr ⟨a, run.lines, (next a).lines, ⟨rfl, rfl⟩, ⟨hresult, rfl⟩, rfl⟩
    · rintro (⟨h, -⟩ | ⟨a', first, second, ⟨ha, rfl⟩, ⟨hresult, rfl⟩, rfl⟩)
      · cases h
      · obtain rfl := Except.ok.inj ha
        exact ⟨hresult, rfl⟩

theorem fails_ofExcept {result : Except Fault α} {lines : List Text} {fault : Fault} :
    (ofExcept result).Fails lines fault ↔ result = .error fault ∧ lines = [] := by
  simp [Fails, ofExcept, eq_comm]

theorem fails_fail {fault other : Fault} {lines : List Text} :
    (fail fault : Run α).Fails lines other ↔ fault = other ∧ lines = [] := by
  simp [Fails, fail, eq_comm]

theorem not_fails_pure {a : α} {lines : List Text} {fault : Fault} :
    ¬(Run.pure a).Fails lines fault := by
  simp [Fails, Run.pure]

theorem not_fails_print {printed lines : List Text} {fault : Fault} :
    ¬(print printed).Fails lines fault := by
  simp [Fails, print]

theorem ends_pure {a b : α} {lines : List Text} :
    (Run.pure a).Ends lines b ↔ a = b ∧ lines = [] := by
  simp [Ends, Run.pure, eq_comm]

theorem ends_note {notices : List Notice} {lines : List Text} :
    (note notices).Ends lines () ↔ lines = [] := by
  simp [Ends, note, eq_comm]

theorem ends_print {printed lines : List Text} :
    (print printed).Ends lines () ↔ lines = printed := by
  simp [Ends, print, eq_comm]

theorem ends_ofExcept {result : Except Fault α} {lines : List Text} {a : α} :
    (ofExcept result).Ends lines a ↔ result = .ok a ∧ lines = [] := by
  simp [Ends, ofExcept, eq_comm]

theorem not_ends_fail {fault : Fault} {lines : List Text} {a : α} :
    ¬(fail fault : Run α).Ends lines a := by
  simp [Ends, fail]

end Run

end LoginReport
