import LoginReport.Machine
import LoginReport.Session.Listing
import LoginReport.Terminal

set_option autoImplicit false

/-!
# The session registry

One command lists the sessions, a session to a line with its identifier first. Another prints the
properties of one session, a property to a line with its value behind an equals sign. A session
whose command fails, or that has no user name, is passed over.
-/

namespace LoginReport.Registry

def propertyNames : List Text :=
  ["Name", "User", "TTY", "Leader", "TimestampMonotonic", "RemoteHost"].map String.toList

def listCommand (program : Text) : List Text :=
  [program, "list-sessions".toList, "--no-legend".toList]

def showCommand (program identifier : Text) : List Text :=
  program :: "show-session".toList :: identifier ::
    propertyNames.flatMap fun name => ["-p".toList, name]

/-- The first word of every line that has one. -/
def identifiers (output : Text) : List Text :=
  (Text.lines output).filterMap fun line => (Text.words line).head?

/-- A property is what stands before the first equals sign of its line. -/
def property? (line : Text) : Option (Text × Text) :=
  match line.dropWhile (· != '=') with
  | [] => none
  | _ :: value => some (line.takeWhile (· != '='), value)

def properties (output : Text) : List (Text × Text) := (Text.lines output).filterMap property?

/-- The value of a property. The last line of a name counts. -/
def value? (properties : List (Text × Text)) (name : String) : Option Text :=
  properties.reverse.lookup name.toList

/-- The login process; a number of zero names none. -/
def leader (properties : List (Text × Text)) : Int :=
  match Numeral.optional (value? properties "Leader") with
  | none => -1
  | some pid => if pid = 0 then -1 else pid

/-- Microseconds from the last boot to the login. -/
def microseconds (properties : List (Text × Text)) : Except NumeralFault Int :=
  match value? properties "TimestampMonotonic" with
  | none => .ok 0
  | some [] => .ok 0
  | some numeral => Numeral.ofText numeral

def startTime (boot : Binary64) (properties : List (Text × Text)) : Except Fault Binary64 := do
  let n ← (microseconds properties).mapError Fault.numeral
  let seconds ← (Binary64.ratio n 1000000).mapError Fault.number
  return boot.add seconds

def session (identifier username : Text) (startTime : Binary64)
    (properties : List (Text × Text)) : LoginSession :=
  { username
    tty := Terminal.clean ((value? properties "TTY").getD [])
    leader := leader properties
    startTime
    uid := Numeral.optional (value? properties "User")
    identifier := some identifier
    remoteHost := some ((value? properties "RemoteHost").getD []) }

/-- What the output of a look-up gives: a session, a notice or a fault. -/
def read (boot : Binary64) (identifier output : Text) : SessionListing :=
  let properties := properties output
  match (value? properties "Name").getD [] with
  | [] => ⟨[.noted (.sessionUnnamed identifier)], none⟩
  | username =>
    match startTime boot properties with
    | .error fault => ⟨[], some fault⟩
    | .ok start => ⟨[.found (session identifier username start properties)], none⟩

def lookUp (machine : Machine) (program : Text) (boot : Binary64) (identifier : Text) :
    SessionListing :=
  let command := showCommand program identifier
  SessionListing.append ⟨[.ran command], none⟩ <|
    match machine.output command with
    | .error (.command _) => ⟨[.noted (.sessionVanished identifier)], none⟩
    | .error (.exchange fault) => ⟨[], some (.exchange fault)⟩
    | .ok output => read boot identifier output

def lookUpAll (machine : Machine) (program : Text) (boot : Binary64) : List Text → SessionListing
  | [] => ⟨[], none⟩
  | identifier :: rest =>
    (lookUp machine program boot identifier).append (lookUpAll machine program boot rest)

def listing (machine : Machine) (program : Text) : SessionListing :=
  match machine.bootTime with
  | .error fault => ⟨[], some (.source (.bootTime fault))⟩
  | .ok boot =>
    SessionListing.append ⟨[.ran (listCommand program)], none⟩ <|
      match machine.output (listCommand program) with
      | .error (.command fault) => ⟨[], some (.source (.sessionList fault))⟩
      | .error (.exchange fault) => ⟨[], some (.exchange fault)⟩
      | .ok output => lookUpAll machine program boot (identifiers output)

end LoginReport.Registry
