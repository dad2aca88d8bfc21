import LoginReport.Machine
import LoginReport.Session.Listing
import LoginReport.Terminal
import LoginReport.Text.Utf8

set_option autoImplicit false

/-!
# The login record file

The file is a row of records of 384 bytes with fields at fixed places, least significant byte
first. A record of a user process with a user name is a session. Bytes behind the last whole record
are not read.
-/

namespace LoginReport.RecordFile

def recordSize : Nat := 384

def userProcess : Int := 7

def defaultPath : Text := "/var/run/utmp".toList

/-- The whole records at the beginning of the data. -/
def take : Nat → Bytes → List Bytes
  | 0, _ => []
  | n + 1, data => data.take recordSize :: take n (data.drop recordSize)

def records (data : Bytes) : List Bytes := take (data.length / recordSize) data

def slice (start size : Nat) (record : Bytes) : Bytes := (record.drop start).take size

def unsigned : Bytes → Nat
  | [] => 0
  | b :: rest => b.toNat + 256 * unsigned rest

/-- A signed number in two's complement. -/
def signed (start size : Nat) (record : Bytes) : Int :=
  (unsigned (slice start size record) : Int).bmod (Nat.pow 256 size)

def kind (record : Bytes) : Int := signed 0 2 record

def pid (record : Bytes) : Int := signed 4 4 record

def line (record : Bytes) : Bytes := slice 8 32 record

def user (record : Bytes) : Bytes := slice 44 userFieldSize record

def host (record : Bytes) : Bytes := slice 76 hostFieldSize record

def seconds (record : Bytes) : Int := signed 340 4 record

def microseconds (record : Bytes) : Int := signed 344 4 record

def address (record : Bytes) : Bytes := slice 348 addressFieldSize record

/-- The text before the first NUL. -/
def text (field : Bytes) : Text := Utf8.decode (field.takeWhile (· != 0))

def startTime (record : Bytes) : Binary64 :=
  (Binary64.ofInt (seconds record)).add (Binary64.ofRatio (microseconds record) 1000000)

def isSession (record : Bytes) : Bool :=
  kind record == userProcess && (user record).headD 0 != 0

def session (record : Bytes) : LoginSession :=
  { username := text (user record)
    tty := Terminal.clean (text (line record))
    leader := pid record
    startTime := startTime record
    host := host record
    address := address record
    display := (text (line record)).head? == some ':' }

def sessions (data : Bytes) : List LoginSession :=
  ((records data).filter isSession).map session

theorem length_of_mem_take (n : Nat) (data record : Bytes) (hd : n * recordSize ≤ data.length)
    (h : record ∈ take n data) : record.length = recordSize := by
  induction n generalizing data with
  | zero => simp [take] at h
  | succ n ih =>
    rw [Nat.succ_mul] at hd
    rcases List.mem_cons.mp h with rfl | hr
    · rw [List.length_take]
      exact Nat.min_eq_left (Nat.le_trans (Nat.le_add_left _ _) hd)
    · refine ih (data.drop recordSize) ?_ hr
      rw [List.length_drop]
      exact Nat.le_sub_of_add_le hd

/-- Every record is whole. -/
theorem length_of_mem_records (data record : Bytes) (h : record ∈ records data) :
    record.length = recordSize :=
  length_of_mem_take _ data record (Nat.div_mul_le_self _ _) h

/-- A file that does not exist holds no sessions. -/
def listing (machine : Machine) (path : Text) : SessionListing :=
  match machine.contents path with
  | .ok data => ⟨(sessions data).map .found, none⟩
  | .error fault =>
    if fault.isMissing then ⟨[.noted (.recordFileMissing path)], none⟩
    else ⟨[], some (.source (.recordFile path fault))⟩

end LoginReport.RecordFile
