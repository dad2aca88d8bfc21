import LoginReport.CommandLine
import LoginReport.Survey

set_option autoImplicit false

/-!
# The command

Reads the files in which the machine describes itself, makes the report from them, and prints it.
Notices go to the error stream.
-/

namespace LoginReport.Reading

/-- The error number of a refused request; any other failure counts as an input or output error. -/
def errorNumber : IO.Error → Int
  | .noFileOrDirectory _ _ _ => 2
  | .permissionDenied _ _ _ => 13
  | _ => 5

def readFile (path : String) : IO (Except SystemFault Bytes) := do
  match ← (IO.FS.readBinFile path).toBaseIO with
  | .ok data => return .ok data.toList
  | .error error => return .error ⟨errorNumber error, some path.toList⟩

def readOrNothing (path : String) : IO Bytes := do
  match ← readFile path with
  | .ok data => return data
  | .error _ => return []

/-- The files of a process, if there is a process of this number. -/
def readProcess (pid : Int) : IO (Option ProcessFiles) := do
  match ← readFile s!"/proc/{pid}/status" with
  | .ok status => return some ⟨pid, status, ← readOrNothing s!"/proc/{pid}/cmdline"⟩
  | .error _ => return none

def readStat (pid : Int) : IO (Text × Except SystemFault Bytes) := do
  let path := Stat.path pid
  return (path, ← readFile (String.ofList path))

def readVariable (name : String) : IO (Option (Text × Text)) := do
  return (← IO.getEnv name).map fun value => (name.toList, value.toList)

def readSurvey : IO Survey := do
  let load ← readOrNothing "/proc/loadavg"
  let pids := (List.range (Survey.lastPid load)).map fun (n : Nat) => (n : Int) + 1
  let processes := (← pids.mapM readProcess).filterMap id
  let environment ← ["PROCPS_USERLEN", "PROCPS_FROMLEN", "PROCPS_CONTAINER", "COLUMNS"].mapM
    readVariable
  let records ← readFile (String.ofList RecordFile.defaultPath)
  return {
    statistics := ← readOrNothing "/proc/stat"
    uptime := ← readOrNothing "/proc/uptime"
    load
    accounts := ← readOrNothing "/etc/passwd"
    environment := environment.filterMap id
    processes
    files := (RecordFile.defaultPath, records) ::
      (← processes.mapM fun process => readStat process.pid) }

end LoginReport.Reading

open LoginReport

def main (arguments : List String) : IO UInt32 := do
  let survey ← Reading.readSurvey
  let outcome := CommandLine.execute survey.machine (arguments.map String.toList)
  (← IO.getStdout).putStr (String.ofList (CommandLine.output outcome))
  for notice in outcome.notices do
    (← IO.getStderr).putStrLn (String.ofList notice.text)
  if let some fault := outcome.escaped then
    (← IO.getStderr).putStrLn (String.ofList fault.message)
  return outcome.status.toUInt32
