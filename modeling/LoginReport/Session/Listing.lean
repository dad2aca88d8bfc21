import LoginReport.Fault
import LoginReport.Notice
import LoginReport.Session.Basic

set_option autoImplicit false

/-!
# Session listings

A listing is what a source of sessions did, step by step, and the fault that ended it, if one did.
The sessions before a fault count.
-/

namespace LoginReport

inductive SessionStep where
  | ran (arguments : List Text)
  | noted (notice : Notice)
  | found (session : LoginSession)
deriving DecidableEq, Repr

structure SessionListing where
  steps : List SessionStep
  fault : Option Fault := none
deriving DecidableEq, Repr

namespace SessionStep

def session? : SessionStep → Option LoginSession
  | found session => some session
  | _ => none

def notice? : SessionStep → Option Notice
  | noted notice => some notice
  | _ => none

def command? : SessionStep → Option (List Text)
  | ran arguments => some arguments
  | _ => none

end SessionStep

namespace SessionListing

def sessions (listing : SessionListing) : List LoginSession :=
  listing.steps.filterMap SessionStep.session?

def notices (listing : SessionListing) : List Notice :=
  listing.steps.filterMap SessionStep.notice?

def commands (listing : SessionListing) : List (List Text) :=
  listing.steps.filterMap SessionStep.command?

/-- One listing after the other, unless the first ended with a fault. -/
def append (first second : SessionListing) : SessionListing :=
  match first.fault with
  | some _ => first
  | none => ⟨first.steps ++ second.steps, second.fault⟩

theorem sessions_append (first second : SessionListing) (h : first.fault = none) :
    (first.append second).sessions = first.sessions ++ second.sessions := by
  simp [append, h, sessions]

end SessionListing

end LoginReport
