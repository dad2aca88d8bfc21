import LoginReport.Text.Basic

set_option autoImplicit false

/-!
# Notices

What a run tells about itself beside the report. Debugging notices are for those who ask.
-/

namespace LoginReport

inductive Level where
  | debug
  | warning
  | error
deriving DecidableEq, Repr

inductive Notice where
  | lengthOutOfRange (name : Text) (low high default : Int)
  | ownerUnknown (user : Text)
  | loginGone (user tty : Text) (leader : Int)
  | recordFileMissing (path : Text)
  | sessionVanished (identifier : Text)
  | sessionUnnamed (identifier : Text)
  | ended (message : Text)
deriving DecidableEq, Repr

namespace Notice

def level : Notice → Level
  | lengthOutOfRange .. => .warning
  | ended _ => .error
  | _ => .debug

def text : Notice → Text
  | lengthOutOfRange name low high _ =>
    name ++ " must be between ".toList ++ Text.ofInt low ++ " and ".toList ++
      Text.ofInt high ++ ", ignoring".toList
  | ownerUnknown _ => "uid lookup failed".toList
  | loginGone .. => "stale session skipped".toList
  | recordFileMissing _ => "utmp file missing".toList
  | sessionVanished _ => "session vanished".toList
  | sessionUnnamed _ => "session has no user name".toList
  | ended message => message

/-- The notices kept when debugging is on or off. -/
def kept (debugging : Bool) (notices : List Notice) : List Notice :=
  notices.filter fun notice => debugging || notice.level != .debug

end Notice

end LoginReport
