import LoginReport.CommandLine
import LoginReport.Proofs.Session.TerminalNames

set_option autoImplicit false

/-!
# Notices of a report

What a report tells beside its lines is for debugging or a warning. The one notice of an error is
that of the fault which ends it.
-/

namespace LoginReport

def Notice.isError (notice : Notice) : Bool := notice.level == .error

/-- None of the notices is one of an error. -/
def Quiet (notices : List Notice) : Prop := ∀ notice ∈ notices, notice.isError = false

theorem quiet_nil : Quiet [] := List.forall_mem_nil _

theorem quiet_singleton {notice : Notice} (h : notice.isError = false) : Quiet [notice] :=
  List.forall_mem_singleton.mpr h

theorem Quiet.append {first second : List Notice} (h : Quiet first) (h' : Quiet second) :
    Quiet (first ++ second) := List.forall_mem_append.mpr ⟨h, h'⟩

/-- The notices that are kept in any case are those of warnings and errors. -/
theorem Quiet.errors_of_ended {notices : List Notice} (h : Quiet notices) (debugging : Bool)
    (message : Text) :
    (Notice.kept debugging (notices ++ [.ended message])).filter Notice.isError =
      [.ended message] := by
  have hnone : (Notice.kept debugging notices).filter Notice.isError = [] := by
    rw [List.filter_eq_nil_iff]
    intro notice hnotice
    rw [h notice (List.mem_filter.mp hnotice).1]
    decide
  have hended : (Notice.kept debugging [.ended message]).filter Notice.isError =
      [.ended message] := by
    cases debugging <;> rfl
  have hsplit : Notice.kept debugging (notices ++ [.ended message]) =
      Notice.kept debugging notices ++ Notice.kept debugging [.ended message] :=
    List.filter_append _ _
  rw [hsplit, List.filter_append, hnone, hended, List.nil_append]

theorem Run.quiet_bind {α β : Type} {run : Run α} {next : α → Run β} (h : Quiet run.notices)
    (hnext : ∀ a, Quiet (next a).notices) : Quiet (run >>= next).notices := by
  change Quiet (Run.bind run next).notices
  unfold Run.bind
  split
  · exact h
  · exact h.append (hnext _)

namespace Settings

theorem quiet_lengthOf (environment : Text → Option Text) (name : Text) (high default : Int) :
    Quiet (lengthOf environment name high default).notices := by
  unfold lengthOf
  repeat' split
  · exact quiet_nil
  · exact quiet_nil
  · exact quiet_singleton rfl
  · exact quiet_nil

theorem quiet_read (environment : Text → Option Text) (terminal width : Option Int)
    (switches : Switches) : Quiet (read environment terminal width switches).notices := by
  refine Run.quiet_bind (quiet_lengthOf _ _ _ _) fun user => ?_
  refine Run.quiet_bind (quiet_lengthOf _ _ _ _) fun origin => ?_
  cases width <;> exact Run.quiet_bind quiet_nil fun columns => quiet_nil

end Settings

theorem SessionListing.quiet_append {first second : SessionListing} (h : Quiet first.notices)
    (h' : Quiet second.notices) : Quiet (first.append second).notices := by
  unfold append
  split
  · exact h
  · rw [notices, List.filterMap_append]
    exact h.append h'

namespace Registry

theorem quiet_read (boot : Binary64) (identifier output : Text) :
    Quiet (read boot identifier output).notices := by
  unfold read
  dsimp only
  split
  · exact quiet_singleton rfl
  · split <;> exact quiet_nil

theorem quiet_lookUp (machine : Machine) (program : Text) (boot : Binary64) (identifier : Text) :
    Quiet (lookUp machine program boot identifier).notices := by
  refine SessionListing.quiet_append quiet_nil ?_
  split
  · exact quiet_singleton rfl
  · exact quiet_nil
  · exact quiet_read _ _ _

/-- By the recursion of the look-ups. -/
theorem quiet_lookUpAll (machine : Machine) (program : Text) (boot : Binary64)
    (identifiers : List Text) : Quiet (lookUpAll machine program boot identifiers).notices := by
  induction identifiers with
  | nil => exact quiet_nil
  | cons identifier rest ih => exact SessionListing.quiet_append (quiet_lookUp _ _ _ _) ih

end Registry

theorem SessionSource.quiet_listing (machine : Machine) (source : SessionSource) :
    Quiet (source.listing machine).notices := by
  cases source with
  | registry program =>
    unfold listing Registry.listing
    dsimp only
    split
    · exact quiet_nil
    · refine SessionListing.quiet_append quiet_nil ?_
      split
      · exact quiet_nil
      · exact quiet_nil
      · exact Registry.quiet_lookUpAll _ _ _ _
  | recordFile path =>
    unfold listing RecordFile.listing
    dsimp only
    split
    · intro notice hnotice
      obtain ⟨step, hstep, hnoted⟩ := List.mem_filterMap.mp hnotice
      obtain ⟨session, -, rfl⟩ := List.mem_map.mp hstep
      cases hnoted
    · split
      · exact quiet_singleton rfl
      · exact quiet_nil

namespace Printout

variable (machine : Machine) (settings : Settings) (table : ProcessTable)

theorem quiet_printSession (session : LoginSession) :
    Quiet (printSession machine settings table session).notices := by
  have howner : Quiet (Activity.notices machine session settings.onlyOwner) := by
    unfold Activity.notices
    split
    · exact quiet_singleton rfl
    · exact quiet_nil
  unfold printSession
  split
  · refine Run.quiet_bind howner fun _ => ?_
    split
    · exact Run.quiet_bind quiet_nil fun line => quiet_nil
    · exact quiet_singleton rfl
  · exact quiet_nil

/-- By the steps of the listing, whose own notices are given beside those of the sessions. -/
theorem quiet_printSteps (steps : List SessionStep)
    (h : Quiet (steps.filterMap SessionStep.notice?)) :
    Quiet (printSteps machine settings table steps).notices := by
  induction steps with
  | nil => exact quiet_nil
  | cons step rest ih =>
    cases step with
    | ran arguments => exact ih h
    | noted notice =>
      obtain ⟨hnotice, hrest⟩ := List.forall_mem_cons.mp h
      exact Run.quiet_bind (quiet_singleton hnotice) fun _ => ih hrest
    | found session =>
      exact Run.quiet_bind (quiet_printSession machine settings table session) fun _ => ih h

theorem quiet_print : Quiet (print machine settings).notices := by
  refine Run.quiet_bind quiet_nil fun table => Run.quiet_bind ?_ fun _ => ?_
  · unfold printHeader
    split
    · refine Run.quiet_bind quiet_nil fun uptime => ?_
      exact Run.quiet_bind quiet_nil fun lines => quiet_nil
    · exact quiet_nil
  · refine Run.quiet_bind ?_ fun _ => ?_
    · exact quiet_printSteps machine settings table _ (SessionSource.quiet_listing machine _)
    · split <;> exact quiet_nil

end Printout

theorem CommandLine.quiet_report (machine : Machine) (switches : Switches) :
    Quiet (report machine switches).notices :=
  Run.quiet_bind (Settings.quiet_read _ _ _ _) fun settings =>
    Printout.quiet_print machine settings

end LoginReport
