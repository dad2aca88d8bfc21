import LoginReport.Number.Binary64

set_option autoImplicit false

/-!
# Login sessions

A session comes from the record file or from the session registry. The registry gives it an
identifier and a remote host name; the record file gives it the raw host and address fields.
-/

namespace LoginReport

/-- The number of characters in which user names of the record file are compared and shown. -/
def userFieldSize : Nat := 32

def hostFieldSize : Nat := 256

def addressFieldSize : Nat := 16

structure LoginSession where
  username : Text
  tty : Text
  leader : Int
  startTime : Binary64
  uid : Option Int := none
  identifier : Option Text := none
  host : Bytes := []
  address : Bytes := List.replicate addressFieldSize 0
  remoteHost : Option Text := none
  /-- The terminal names an X display, so its idle time is unknown. -/
  display : Bool := false
deriving DecidableEq, Repr

namespace LoginSession

def fromRegistry (session : LoginSession) : Bool := session.identifier.isSome

/-- The session is the named user's. Names of the record file are compared in the width of its
field only. -/
def isOf (session : LoginSession) : Option Text → Bool
  | none => true
  | some user =>
    if session.fromRegistry then session.username == user
    else session.username.take userFieldSize == user.take userFieldSize

end LoginSession

end LoginReport
