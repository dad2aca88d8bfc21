import LoginReport.Activity
import Mathlib.Data.List.MinMax

set_option autoImplicit false

/-!
# Candidates

The processes that a session is to be shown by, told from the table alone. An eligible process runs
in the foreground of the session's terminal for its owner. The login process is a candidate before
all of them, unless an eligible process stands before it in the table. The first newest candidate
is the one that a pass with commands ends with.
-/

namespace LoginReport.Activity

/-- The process runs in the foreground of the session's terminal and, with `onlyOwner`, for the
session's owner. -/
def IsEligible (machine : Machine) (session : LoginSession) (onlyOwner : Bool)
    (process : ProcessRecord) : Prop :=
  process.terminal = Terminal.number machine session.tty ∧
    process.group = process.foreground ∧
    (onlyOwner = true →
      ∃ uid ∈ ownerOf machine session, uid = process.effective ∨ uid = process.real)

instance (machine : Machine) (session : LoginSession) (onlyOwner : Bool) :
    DecidablePred (IsEligible machine session onlyOwner) := fun _ =>
  inferInstanceAs (Decidable (_ ∧ _ ∧ _))

def firstGreatest {α β : Type} [LinearOrder β] (key : α → β) (l : List α) : Option α :=
  l.argmax key

section

variable (eligible : ProcessRecord → Bool) (leader : Int) (processes : List ProcessRecord)

/-- The first process of the login. -/
def login? : Option ProcessRecord := processes.find? fun process => process.leader = leader

/-- The eligible processes, and before them the login process, unless an eligible one stands before
it. -/
def candidates : List ProcessRecord :=
  if (processes.takeWhile fun process => process.leader ≠ leader).any eligible then
    processes.filter eligible
  else (login? leader processes).toList ++ processes.filter eligible

/-- The first of the candidates that started last. -/
def best? : Option ProcessRecord :=
  firstGreatest ProcessRecord.startTime (candidates eligible leader processes)

variable {eligible leader processes}

theorem login?_eq_none_iff :
    login? leader processes = none ↔ ∀ process ∈ processes, process.leader ≠ leader := by
  simp [login?, List.find?_eq_none]

theorem mem_candidates {process : ProcessRecord}
    (h : process ∈ candidates eligible leader processes) :
    process ∈ processes ∧ (process.leader = leader ∨ eligible process = true) := by
  have hfilter : process ∈ processes.filter eligible →
      process ∈ processes ∧ (process.leader = leader ∨ eligible process = true) := by
    intro hm
    exact ⟨(List.mem_filter.mp hm).1, Or.inr (List.mem_filter.mp hm).2⟩
  unfold candidates at h
  split at h
  · exact hfilter h
  · rcases List.mem_append.mp h with hl | he
    · have hfind : login? leader processes = some process := Option.mem_toList.mp hl
      exact ⟨List.mem_of_find?_eq_some hfind, Or.inl (by simpa using List.find?_some hfind)⟩
    · exact hfilter he

theorem eligible_mem_candidates {process : ProcessRecord} (hm : process ∈ processes)
    (he : eligible process = true) : process ∈ candidates eligible leader processes := by
  have hf : process ∈ processes.filter eligible := List.mem_filter.mpr ⟨hm, he⟩
  unfold candidates
  split
  · exact hf
  · exact List.mem_append_right _ hf

theorem candidates_of_no_login (h : login? leader processes = none) :
    candidates eligible leader processes = processes.filter eligible := by
  unfold candidates
  rw [h]
  exact ite_self _

theorem candidates_ne_nil_of_login (h : login? leader processes ≠ none) :
    candidates eligible leader processes ≠ [] := by
  obtain ⟨login, hlogin⟩ := Option.ne_none_iff_exists'.mp h
  unfold candidates
  split
  · rename_i hany
    obtain ⟨process, hm, he⟩ := List.any_eq_true.mp hany
    have hp : process ∈ processes := (List.takeWhile_sublist _).subset hm
    exact List.ne_nil_of_mem (List.mem_filter.mpr ⟨hp, he⟩)
  · rw [hlogin]
    exact List.cons_ne_nil _ _

theorem takeWhile_concat_of_login (process : ProcessRecord) (h : login? leader processes ≠ none) :
    ((processes ++ [process]).takeWhile fun process => process.leader ≠ leader) =
      processes.takeWhile fun process => process.leader ≠ leader := by
  obtain ⟨login, hlogin⟩ := Option.ne_none_iff_exists'.mp h
  obtain ⟨hl, before, after, rfl, hbefore⟩ := List.find?_eq_some_iff_append.mp hlogin
  have hb : ∀ rest, (before ++ login :: rest).takeWhile (fun process => process.leader ≠ leader) =
      before := by
    intro rest
    rw [List.takeWhile_append_of_pos (by simpa using hbefore),
      List.takeWhile_cons_of_neg (by simpa using hl), List.append_nil]
  rw [List.append_assoc, List.cons_append, hb, hb]

theorem filter_concat (process : ProcessRecord) :
    (processes ++ [process]).filter eligible =
      processes.filter eligible ++ (if eligible process then [process] else []) := by
  rw [List.filter_append, List.filter_singleton]
  split <;> simp_all

theorem login?_concat (process : ProcessRecord) :
    login? leader (processes ++ [process]) =
      (login? leader processes).or (if process.leader = leader then some process else none) := by
  simp [login?, List.find?_append, List.find?_singleton]

theorem candidates_concat_of_no_login (process : ProcessRecord)
    (h : login? leader processes = none) :
    candidates eligible leader (processes ++ [process]) =
      (if processes.filter eligible = [] ∧ process.leader = leader then [process]
        else processes.filter eligible) ++
        (if eligible process then [process] else []) := by
  by_cases hl : process.leader = leader
  · have hfirst : login? leader (processes ++ [process]) = some process := by
      rw [login?_concat, h, if_pos hl]
      rfl
    have hbefore : (processes ++ [process]).takeWhile (fun process => process.leader ≠ leader) =
        processes := by
      rw [List.takeWhile_append_of_pos (by simpa using login?_eq_none_iff.mp h),
        List.takeWhile_cons_of_neg (by simpa using hl), List.append_nil]
    rw [candidates, hbefore, hfirst, filter_concat]
    by_cases he : processes.filter eligible = []
    · have hany : processes.any eligible = false := by
        rw [List.any_eq_false]
        exact List.filter_eq_nil_iff.mp he
      simp [hany, he, hl]
    · have hany : processes.any eligible = true := by
        rw [List.any_eq_true]
        obtain ⟨other, hother⟩ := List.exists_mem_of_ne_nil _ he
        exact ⟨other, List.mem_filter.mp hother⟩
      simp [hany, he]
  · have hnone : login? leader (processes ++ [process]) = none := by
      rw [login?_concat, h, if_neg hl]
      rfl
    have hkept : ¬(processes.filter eligible = [] ∧ process.leader = leader) := fun hb => hl hb.2
    rw [candidates_of_no_login hnone, filter_concat, if_neg hkept]

theorem candidates_concat_of_login (process : ProcessRecord)
    (h : login? leader processes ≠ none) :
    candidates eligible leader (processes ++ [process]) =
      candidates eligible leader processes ++ (if eligible process then [process] else []) := by
  have hsame : login? leader (processes ++ [process]) = login? leader processes := by
    obtain ⟨login, hlogin⟩ := Option.ne_none_iff_exists'.mp h
    rw [login?_concat, hlogin]
    rfl
  unfold candidates
  rw [takeWhile_concat_of_login process h, hsame, filter_concat]
  split
  · rfl
  · rw [List.append_assoc]

theorem candidates_concat (process : ProcessRecord) :
    candidates eligible leader (processes ++ [process]) =
      (if candidates eligible leader processes = [] ∧ process.leader = leader then [process]
        else candidates eligible leader processes) ++
        (if eligible process then [process] else []) := by
  by_cases h : login? leader processes = none
  · rw [candidates_concat_of_no_login process h, candidates_of_no_login h]
  · have hkept : ¬(candidates eligible leader processes = [] ∧ process.leader = leader) :=
      fun hb => candidates_ne_nil_of_login h hb.1
    rw [candidates_concat_of_login process h, if_neg hkept]

theorem best?_eq_none_iff :
    best? eligible leader processes = none ↔ candidates eligible leader processes = [] := by
  rw [best?, firstGreatest, List.argmax_eq_none]

theorem mem_of_best? {best : ProcessRecord} (h : best? eligible leader processes = some best) :
    best ∈ processes ∧ (best.leader = leader ∨ eligible best = true) :=
  mem_candidates (List.argmax_mem h)

theorem le_best? {best process : ProcessRecord}
    (h : best? eligible leader processes = some best) (hm : process ∈ processes)
    (he : eligible process = true) : process.startTime ≤ best.startTime :=
  List.le_of_mem_argmax (eligible_mem_candidates hm he) h

theorem best?_concat (process : ProcessRecord) :
    best? eligible leader (processes ++ [process]) =
      if (best? eligible leader processes = none ∧ process.leader = leader) ∨
          (eligible process = true ∧
            ∀ best ∈ best? eligible leader processes, best.startTime < process.startTime) then
        some process
      else best? eligible leader processes := by
  have hc : candidates eligible leader (processes ++ [process]) = _ := candidates_concat process
  cases hb : best? eligible leader processes with
  | none =>
    rw [best?_eq_none_iff.mp hb] at hc
    rw [best?, hc, firstGreatest]
    by_cases hl : process.leader = leader <;> by_cases he : eligible process = true <;>
      simp [hl, he, List.argmax_cons]
  | some best =>
    have hne : candidates eligible leader processes ≠ [] := by
      intro hnil
      rw [best?_eq_none_iff.mpr hnil] at hb
      exact Option.some_ne_none best hb.symm
    rw [if_neg (fun h => hne h.1)] at hc
    rw [best?, hc]
    by_cases he : eligible process = true
    · rw [if_pos he, firstGreatest, List.argmax_concat]
      rw [best?, firstGreatest] at hb
      rw [hb]
      simp [he]
    · rw [if_neg he, List.append_nil, ← best?, hb]
      simp [he]

end

end LoginReport.Activity
