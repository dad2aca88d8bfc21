import LoginReport.Session.RecordFile
import LoginReport.Session.Registry

set_option autoImplicit false

/-!
# Sources of sessions

The registry is asked where it runs and its command is installed; elsewhere the record file is read.
-/

namespace LoginReport

inductive SessionSource where
  | registry (program : Text)
  | recordFile (path : Text)
deriving DecidableEq, Repr

namespace SessionSource

def ofMachine (machine : Machine) : SessionSource :=
  if machine.hasRegistry then
    match machine.registryCommand with
    | some (c :: rest) => registry (c :: rest)
    | _ => recordFile RecordFile.defaultPath
  else recordFile RecordFile.defaultPath

def listing (machine : Machine) : SessionSource → SessionListing
  | registry program => Registry.listing machine program
  | recordFile path => RecordFile.listing machine path

end SessionSource

end LoginReport
