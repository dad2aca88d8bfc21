import LoginReport.Proofs.Machine
import LoginReport.Proofs.Session.RecordLayout
import LoginReport.Proofs.Session.TerminalNames
import LoginReport.Proofs.Text.Utf8
import Mathlib.Data.List.Forall2

set_option autoImplicit false

/-!
# Sessions from login records

Reading undoes writing: a file of records gives one session for every record of a user process with
a user name, in the order of the file, and the session has what the record says.
-/

namespace LoginReport

namespace LoginRecord

def isLogin (record : LoginRecord) : Bool := record.kind == 7 && record.user[0] != 0

/-- What a session takes from its record: every field but those that only a registry knows. -/
structure Describes (record : LoginRecord) (session : LoginSession) : Prop where
  username : session.username = Utf8.decode (record.user.toList.takeWhile (· != 0))
  tty : Terminal.IsNameOf (Utf8.decode (record.line.toList.takeWhile (· != 0))) session.tty
  leader : session.leader = record.pid.toInt
  startTime : session.startTime =
    (Binary64.ofInt record.seconds.toInt).add (Binary64.ofRatio record.microseconds.toInt 1000000)
  host : session.host = record.host.toList
  address : session.address = record.address.toList
  display : session.display = true ↔ record.line[0] = 0x3a
  uid : session.uid = none
  identifier : session.identifier = none
  remoteHost : session.remoteHost = none

end LoginRecord

namespace RecordFile

variable (record : LoginRecord)

theorem headD_toList {size : Nat} (field : Vector UInt8 (size + 1)) :
    field.toList.headD 0 = field[0] := by
  have hhead : field.toList.head? = some field[0] := by
    rw [List.head?_eq_getElem?, List.getElem?_eq_getElem (by simp), Vector.getElem_toList]
  rw [List.headD_eq_head?_getD, hhead, Option.getD_some]

theorem isSession_encode : isSession record.encode = record.isLogin := by
  have hkind : (record.kind.toInt == userProcess) = (record.kind == 7) := by
    rw [Bool.eq_iff_iff, beq_iff_eq, beq_iff_eq]
    exact Int16.toInt_inj (y := 7)
  have huser : record.user.toList.headD 0 = record.user[0] := headD_toList record.user
  rw [isSession, kind_encode, user_encode, hkind, huser, LoginRecord.isLogin]

/-- A NUL is no colon, so nothing is lost where the line ends at once. -/
theorem head?_text_iff (field : Bytes) :
    (text field).head? = some ':' ↔ field.head? = some 0x3a := by
  rw [text, Utf8.head?_decode (by decide)]
  cases field with
  | nil => simp
  | cons b rest =>
    by_cases hb : b = 0
    · subst hb
      constructor
      · intro h
        cases h
      · intro h
        cases h
    · rw [List.takeWhile_cons_of_pos (by simpa using hb)]
      simp

theorem startTime_encode : startTime record.encode =
    (Binary64.ofInt record.seconds.toInt).add
      (Binary64.ofRatio record.microseconds.toInt 1000000) := by
  rw [startTime, seconds_encode, microseconds_encode]

theorem display_encode :
    (text (line record.encode)).head? = some ':' ↔ record.line[0] = 0x3a := by
  rw [head?_text_iff, line_encode, List.head?_eq_getElem?, List.getElem?_eq_getElem (by simp),
    Vector.getElem_toList, Option.some.injEq]

theorem describes_session : record.Describes (session record.encode) := by
  constructor
  · rw [session, text, user_encode]
  · rw [session, ← line_encode]
    exact Terminal.clean_isNameOf _
  · rw [session, pid_encode]
  · rw [session, startTime_encode]
  · rw [session, host_encode]
  · rw [session, address_encode]
  · rw [session, ← display_encode, beq_iff_eq]
  · rw [session]
  · rw [session]
  · rw [session]

theorem sessions_encode (stored : List LoginRecord) (tail : Bytes)
    (htail : tail.length < recordSize) :
    sessions (stored.flatMap LoginRecord.encode ++ tail) =
      (stored.filter LoginRecord.isLogin).map (session ∘ LoginRecord.encode) := by
  have hfilter : isSession ∘ LoginRecord.encode = LoginRecord.isLogin := by
    funext record
    rw [Function.comp_apply, isSession_encode]
  rw [sessions, records_flatMap_encode stored tail htail, List.filter_map, hfilter, List.map_map]

/-- A field of these bytes, filled up with zeros. -/
def zeroFilled {size : Nat} (bytes : Bytes) : Vector UInt8 size where
  toArray := (bytes.take size ++ List.replicate (size - bytes.length) 0).toArray
  size_toArray := by
    rw [List.size_toArray, List.length_append, List.length_take, List.length_replicate]
    omega

/-- The record of a boot, which is no login. -/
def bootRecord : LoginRecord where
  kind := 2
  padding := zeroFilled []
  pid := 0
  line := zeroFilled [0x7e]
  identifier := zeroFilled [0x7e, 0x7e]
  user := zeroFilled [0x72, 0x65, 0x62, 0x6f, 0x6f, 0x74]
  host := zeroFilled []
  termination := 0
  status := 0
  session := 0
  seconds := 60
  microseconds := 0
  address := zeroFilled []
  reserved := zeroFilled []

/-- A login on an X display, with a byte in the user field that begins no character. -/
def displayRecord : LoginRecord :=
  { bootRecord with
    kind := 7
    pid := -2
    line := zeroFilled [0x3a, 0x30]
    user := zeroFilled [0x75, 0xff]
    microseconds := -1 }

/-- The file is read to its end without a fault, and what stands behind its last record, shorter
than one more, is as good as nothing. -/
theorem listing_of_encoded (machine : Machine) (path : Text) (stored : List LoginRecord)
    (tail : Bytes) (htail : tail.length < recordSize)
    (hfile : machine.contents path = .ok (stored.flatMap LoginRecord.encode ++ tail)) :
    ∃ found, listing machine path = ⟨found.map .found, none⟩ ∧
      List.Forall₂ LoginRecord.Describes (stored.filter LoginRecord.isLogin) found ∧
      found = sessions (stored.flatMap LoginRecord.encode) := by
  refine ⟨sessions (stored.flatMap LoginRecord.encode ++ tail), ?_, ?_, ?_⟩
  · rw [listing, hfile]
  · rw [sessions_encode stored tail htail, List.forall₂_map_right_iff, List.forall₂_same]
    intro record _
    exact describes_session record
  · have hwhole := sessions_encode stored [] (by decide)
    rw [List.append_nil] at hwhole
    rw [sessions_encode stored tail htail, hwhole]

theorem listing_of_boot_and_display :
    ([1, 2, 3] : Bytes).length < recordSize ∧
      (Machine.bare.withFiles [(['u'], [bootRecord, displayRecord].flatMap LoginRecord.encode ++
        [1, 2, 3])]).contents ['u'] =
          .ok ([bootRecord, displayRecord].flatMap LoginRecord.encode ++ [1, 2, 3]) ∧
      ∃ found, listing (Machine.bare.withFiles [(['u'],
          [bootRecord, displayRecord].flatMap LoginRecord.encode ++ [1, 2, 3])]) ['u'] =
            ⟨found.map .found, none⟩ ∧
        List.Forall₂ LoginRecord.Describes [displayRecord] found ∧
        found = sessions ([bootRecord, displayRecord].flatMap LoginRecord.encode) := by
  refine ⟨by decide, rfl, ?_⟩
  have hlogins : [bootRecord, displayRecord].filter LoginRecord.isLogin = [displayRecord] := rfl
  have hlisting := listing_of_encoded (Machine.bare.withFiles [(['u'],
    [bootRecord, displayRecord].flatMap LoginRecord.encode ++ [1, 2, 3])]) ['u']
    [bootRecord, displayRecord] [1, 2, 3] (by decide) rfl
  rwa [hlogins] at hlisting

end RecordFile

end LoginReport
