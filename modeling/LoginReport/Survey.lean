import LoginReport.Machine
import LoginReport.Session.RecordFile
import LoginReport.Text.Utf8

set_option autoImplicit false

/-!
# Surveys

A survey is the text of the files in which a machine describes itself, read at one time. It gives
the machine that a report looks at, as far as the files tell: the clock runs in universal time,
terminals are known by their names only, and no command is run, so sessions come from the record
file.
-/

namespace LoginReport

structure ProcessFiles where
  pid : Int
  status : Bytes
  arguments : Bytes

structure Survey where
  statistics : Bytes
  uptime : Bytes
  load : Bytes
  accounts : Bytes
  environment : List (Text × Text)
  processes : List ProcessFiles
  files : List (Text × Except SystemFault Bytes)

namespace Survey

def wordsOf (bytes : Bytes) : List Text := Text.words (Utf8.decode bytes)

/-- A number with or without a decimal point. -/
def decimal (s : Text) : Binary64 :=
  let whole := s.takeWhile Text.isDigit
  let places := ((s.dropWhile Text.isDigit).drop 1).takeWhile Text.isDigit
  Binary64.ofDecimal false (Numeral.valueOf ((whole ++ places).filterMap Text.digitValue?))
    (-(places.length : Int))

/-- The words behind a name at the beginning of a line. -/
def entry (name : String) (bytes : Bytes) : List Text :=
  ((Text.lines (Utf8.decode bytes)).findSome? fun line =>
    match Text.words line with
    | word :: rest => if word = name.toList then some rest else none
    | [] => none).getD []

def integer (s : Text) : Int := (Numeral.optional (some s)).getD 0

def bootTime (survey : Survey) : Binary64 :=
  Binary64.ofInt (integer ((entry "btime" survey.statistics).headD []))

def now (survey : Survey) : Binary64 :=
  survey.bootTime.add (decimal ((wordsOf survey.uptime).headD []))

def loadAverage (survey : Survey) : LoadAverage :=
  match wordsOf survey.load with
  | one :: five :: fifteen :: _ => ⟨decimal one, decimal five, decimal fifteen⟩
  | _ => ⟨.zero, .zero, .zero⟩

/-- The number of the newest process, which stands behind the load average. -/
def lastPid (load : Bytes) : Nat := (integer ((wordsOf load).getD 4 [])).toNat

/-- An account is a line of fields between colons: the name, a mark and the number. -/
def account? (line : Text) : Option (Text × Int) :=
  match line.splitOnP (· == ':') with
  | name :: _ :: number :: _ => some (name, integer number)
  | _ => none

def userId (survey : Survey) (name : Text) : Option Int :=
  ((Text.lines (Utf8.decode survey.accounts)).filterMap account?).lookup name

def deviceNumber (major minor : Nat) : Int := minor % 256 + major * 256 + minor / 256 * 0x100000

/-- The number behind a name, if there is nothing else behind it. -/
def numbered? (name : String) (path : Text) : Option Nat :=
  let rest := path.drop name.length
  if path.take name.length = name.toList ∧ rest ≠ [] ∧ rest.all Text.isDigit then
    some (Numeral.valueOf (rest.filterMap Text.digitValue?))
  else none

/-- Terminals as their names number them. When they were last read is not known. -/
def device (survey : Survey) (path : Text) : Option Device :=
  match numbered? "/dev/pts/" path, numbered? "/dev/tty" path with
  | some n, _ => some ⟨true, deviceNumber 136 n, survey.now⟩
  | none, some n => some ⟨true, deviceNumber 4 n, survey.now⟩
  | none, none => none

def owners (files : ProcessFiles) : Option Owners :=
  match entry "Uid:" files.status with
  | real :: effective :: _ => some ⟨integer real, integer effective⟩
  | _ => none

/-- Arguments end with a NUL each. -/
def arguments (bytes : Bytes) : List Text :=
  ((bytes.splitOnP (· == 0)).dropLast).map Utf8.decode

def process (files : ProcessFiles) : Except SystemFault ProcessInfo :=
  .ok
    { pid := files.pid
      name := (entry "Name:" files.status).head?
      owners := owners files
      arguments := some (arguments files.arguments)
      askOwners := .error .gone }

def contents (survey : Survey) (path : Text) : Except SystemFault Bytes :=
  (survey.files.lookup path).getD (.error ⟨2, some path⟩)

def userCount (survey : Survey) : Except SystemFault Int :=
  (contents survey RecordFile.defaultPath).map fun data =>
    ((RecordFile.sessions data).length : Int)

def machine (survey : Survey) : Machine :=
  { now := survey.now
    zone := 0
    device := survey.device
    userId := survey.userId
    contents := survey.contents
    environment := fun name => survey.environment.lookup name
    terminalColumns := none
    clockTicks := none
    hasProcessTable := true
    processes := survey.processes.map process
    bootTime := .ok survey.bootTime
    userCount := survey.userCount
    loadAverage := .ok survey.loadAverage
    hasRegistry := false
    registryCommand := none
    run := fun arguments => .notStarted ⟨2, arguments.head?⟩ }

end Survey

end LoginReport
