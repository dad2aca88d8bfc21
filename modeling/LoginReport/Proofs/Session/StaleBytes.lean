import LoginReport.Printout
import LoginReport.Proofs.Host.Suffix
import LoginReport.Proofs.Session.RoundTrip

set_option autoImplicit false

/-!
# Bytes behind a NUL

A NUL ends the text of a field, and what an earlier login left behind it stays hidden: neither the
origin of a session nor its user, its terminal or whether it is on a display hang on it. So two
records with the same texts and numbers print the same.
-/

namespace LoginReport

/-- The fields are equal, or they are as far as the first NUL of both. -/
inductive SameText : Bytes → Bytes → Prop where
  | equal (field : Bytes) : SameText field field
  | ended {before : Bytes} (rest other : Bytes) (h : 0 ∉ before) :
      SameText (before ++ 0 :: rest) (before ++ 0 :: other)

def untilNul (field : Bytes) : Bytes := field.takeWhile (· != 0)

theorem untilNul_cons {b : UInt8} (hb : b ≠ 0) (rest : Bytes) :
    untilNul (b :: rest) = b :: untilNul rest :=
  List.takeWhile_cons_of_pos (bne_iff_ne.mpr hb)

theorem untilNul_nul (rest : Bytes) : untilNul (0 :: rest) = [] := rfl

theorem untilNul_append_nul {before : Bytes} (rest : Bytes) (h : 0 ∉ before) :
    untilNul (before ++ 0 :: rest) = before := by
  have hall : ∀ b ∈ before, (b != 0) = true := by
    intro b hb
    exact bne_iff_ne.mpr fun hzero => h (hzero ▸ hb)
  rw [untilNul, List.takeWhile_append_of_pos hall]
  exact List.append_nil before

theorem untilNul_take (field : Bytes) (n : Nat) :
    untilNul (field.take n) = (untilNul field).take n := List.take_takeWhile.symm

variable {field other : Bytes}

theorem SameText.untilNul_eq (h : SameText field other) : untilNul field = untilNul other := by
  cases h with
  | equal => rfl
  | ended rest other h => rw [untilNul_append_nul rest h, untilNul_append_nul other h]

theorem SameText.headD_eq (h : SameText field other) : field.headD 0 = other.headD 0 := by
  cases h with
  | equal => rfl
  | @ended before => cases before <;> rfl

/-! ## Host fields -/

namespace HostField

theorem copy_untilNul (raw : Bytes) : copy (untilNul raw) = copy raw := by
  induction raw with
  | nil => rfl
  | cons b rest ih =>
    by_cases hb : b = 0
    · subst hb
      rfl
    · rw [untilNul_cons hb, copy, copy, ih]

/-- The search ends at a NUL as it does where the bytes end. -/
theorem seek_untilNul {target : UInt8} (htarget : target ≠ 0) (raw : Bytes) :
    seek target (untilNul raw) = (seek target raw).map untilNul := by
  induction raw with
  | nil => rfl
  | cons b rest ih =>
    by_cases hb : b = 0
    · subst hb
      rw [untilNul_nul, seek, seek, if_neg htarget.symm]
      rfl
    · rw [untilNul_cons hb, seek, seek, ih]
      split
      · rw [Option.map_some, untilNul_cons hb]
      · split <;> rfl

theorem suffix?_untilNul (field : Bytes) :
    suffix? (untilNul field) = (suffix? field).map untilNul := by
  have hcolon : colon ≠ 0 := by decide
  unfold suffix?
  rw [seek_untilNul hcolon]
  cases hdisplay : seek colon field with
  | none => rfl
  | some display =>
    obtain ⟨-, tail, -, rfl, -⟩ := seek_eq_some hdisplay
    rw [Option.map_some, untilNul_cons hcolon]
    dsimp only [List.tail_cons]
    rw [seek_untilNul hcolon]
    cases seek colon tail with
    | none => rw [Option.map_none, Option.map_some, untilNul_cons hcolon]
    | some address => exact seek_untilNul (by decide) address

theorem name_untilNul (raw : Bytes) (length width : Int) :
    name (untilNul raw) length width = name raw length width := by
  rw [name, name, shownName, shownName, ← untilNul_take, copy_untilNul]

theorem shownSuffix_untilNul (raw : Bytes) (length width : Int) :
    shownSuffix (untilNul raw) length width = shownSuffix raw length width := by
  unfold shownSuffix
  rw [← untilNul_take, suffix?_untilNul]
  cases suffix? (raw.take length.toNat) with
  | none => rfl
  | some bytes =>
    rw [Option.map_some]
    dsimp only
    rw [← untilNul_take, copy_untilNul]

theorem suffix_untilNul (raw : Bytes) (length width : Int) :
    suffix (untilNul raw) length width = suffix raw length width := by
  rw [suffix, suffix, shownSuffix_untilNul]

end HostField

namespace Origin

theorem column_untilNul (session : LoginSession) (addresses : Bool) (width : Int) :
    column { session with host := untilNul session.host } addresses width =
      column session addresses width := by
  unfold column ofHost shownAddress
  dsimp only
  rw [HostField.name_untilNul]
  simp only [HostField.suffix_untilNul]
  rfl

theorem column_of_sameText (session : LoginSession) (h : SameText session.host other)
    (addresses : Bool) (width : Int) :
    column session addresses width = column { session with host := other } addresses width := by
  have hother := column_untilNul { session with host := other } addresses width
  rw [← column_untilNul session, h.untilNul_eq, ← hother]

end Origin

/-! ## Sessions and records -/

/-- The sessions are the same but for what cannot be told from their origins. -/
structure LoginSession.LooksLike (session other : LoginSession) : Prop where
  same : other = { session with host := other.host }
  origin : ∀ addresses width,
    Origin.column other addresses width = Origin.column session addresses width

theorem LoginSession.LooksLike.printSession_eq {session other : LoginSession}
    (h : session.LooksLike other) (machine : Machine) (settings : Settings)
    (table : ProcessTable) :
    Printout.printSession machine settings table other =
      Printout.printSession machine settings table session := by
  obtain ⟨host, rfl⟩ : ∃ host, other = { session with host } := ⟨_, h.same⟩
  have horigin : Table.origin { session with host } settings = Table.origin session settings := by
    rw [Table.origin, Table.origin, h.origin]
  have hrow : ∀ shown,
      Table.row machine { session with host } shown settings table.hertz machine.now =
        Table.row machine session shown settings table.hertz machine.now := by
    intro shown
    unfold Table.row
    rw [horigin]
    rfl
  unfold Printout.printSession
  simp only [hrow]
  rfl

namespace RecordFile

theorem text_of_sameText (h : SameText field other) : text field = text other :=
  congrArg Utf8.decode h.untilNul_eq

/-- The records have the same numbers and the same texts in their fields. -/
structure SameTexts (record other : Bytes) : Prop where
  kind : kind record = kind other
  pid : pid record = pid other
  seconds : seconds record = seconds other
  microseconds : microseconds record = microseconds other
  address : address record = address other
  user : SameText (user record) (user other)
  line : SameText (line record) (line other)
  host : SameText (host record) (host other)

theorem SameTexts.isSession_eq {record other : Bytes} (h : SameTexts record other) :
    isSession record = isSession other := by
  rw [isSession, isSession, h.kind, h.user.headD_eq]

theorem SameTexts.looksLike {record other : Bytes} (h : SameTexts record other) :
    (session record).LooksLike (session other) := by
  have hsession : session other = { session record with host := RecordFile.host other } := by
    rw [session, session, startTime, startTime, h.pid, h.seconds, h.microseconds, h.address,
      text_of_sameText h.user, text_of_sameText h.line]
  refine ⟨hsession, ?_⟩
  intro addresses width
  have horigin := Origin.column_of_sameText (session record) h.host addresses width
  rw [horigin, ← hsession]

/-- Nothing that stands behind the NUL of a text is shown: not of the host field in the origin of a
session, and not of the fields of user and terminal in what a session takes from its record. Files
that differ in nothing else have sessions that print the same. -/
theorem hidden_behind_nul :
    (∀ (session : LoginSession) (field other : Bytes) (addresses : Bool) (width : Int),
      SameText field other →
        Origin.column { session with host := field } addresses width =
          Origin.column { session with host := other } addresses width) ∧
      (∀ record other : Bytes,
        (SameText (user record) (user other) →
          (session record).username = (session other).username) ∧
        (SameText (line record) (line other) →
          (session record).tty = (session other).tty ∧
            (session record).display = (session other).display)) ∧
      ∀ file other : Bytes, List.Forall₂ SameTexts (records file) (records other) →
        List.Forall₂
          (fun session other => session.LooksLike other ∧ ∀ machine settings table,
            Printout.printSession machine settings table other =
              Printout.printSession machine settings table session)
          (sessions file) (sessions other) := by
  refine ⟨?_, ?_, ?_⟩
  · intro session field other addresses width h
    exact Origin.column_of_sameText { session with host := field } h addresses width
  · intro record other
    constructor
    · intro h
      exact text_of_sameText h
    · intro h
      have htext := text_of_sameText h
      exact ⟨congrArg Terminal.clean htext, congrArg (fun s : Text => s.head? == some ':') htext⟩
  · intro file other h
    rw [sessions, sessions, List.forall₂_map_left_iff, List.forall₂_map_right_iff]
    refine List.Forall₂.imp ?_ (List.rel_filter ?_ h)
    · intro record other hsame
      exact ⟨hsame.looksLike, hsame.looksLike.printSession_eq⟩
    · intro record other hsame
      exact Bool.eq_iff_iff.mp hsame.isSession_eq

/-- The login on a display, with the leavings of longer names in all of its fields. -/
def reusedRecord : LoginRecord :=
  { displayRecord with
    line := zeroFilled [0x3a, 0x30, 0, 0x2f]
    user := zeroFilled [0x75, 0xff, 0, 0x76]
    host := zeroFilled [0, 0x3a, 0x31] }

theorem sameTexts_reusedRecord : SameTexts displayRecord.encode reusedRecord.encode where
  kind := by rw [kind_encode, kind_encode]; rfl
  pid := by rw [pid_encode, pid_encode]; rfl
  seconds := by rw [seconds_encode, seconds_encode]; rfl
  microseconds := by rw [microseconds_encode, microseconds_encode]; rfl
  address := by rw [address_encode, address_encode]; rfl
  user := by
    rw [user_encode, user_encode]
    have hbefore : (0 : UInt8) ∉ ([0x75, 0xff] : Bytes) := by decide
    exact .ended (List.replicate 29 0) (0x76 :: List.replicate 28 0) hbefore
  line := by
    rw [line_encode, line_encode]
    have hbefore : (0 : UInt8) ∉ ([0x3a, 0x30] : Bytes) := by decide
    exact .ended (List.replicate 29 0) (0x2f :: List.replicate 28 0) hbefore
  host := by
    rw [host_encode, host_encode]
    exact .ended (List.replicate 255 0) ([0x3a, 0x31] ++ List.replicate 253 0) List.not_mem_nil

/-- A host with another display behind its NUL, and a record with leavings in three fields. -/
theorem hidden_behind_nul_of_reused :
    (SameText [0x70, 0x3a, 0x30, 0, 0x3a, 0x31] [0x70, 0x3a, 0x30, 0, 0xff] ∧
        Origin.column { LoginSession.ofLeader 1000 100 with
            host := [0x70, 0x3a, 0x30, 0, 0x3a, 0x31] } false 8 =
          Origin.column { LoginSession.ofLeader 1000 100 with
            host := [0x70, 0x3a, 0x30, 0, 0xff] } false 8) ∧
      ((session displayRecord.encode).username = (session reusedRecord.encode).username ∧
        (session displayRecord.encode).tty = (session reusedRecord.encode).tty ∧
        (session displayRecord.encode).display = (session reusedRecord.encode).display) ∧
      List.Forall₂ SameTexts (records displayRecord.encode) (records reusedRecord.encode) ∧
      List.Forall₂
        (fun session other => session.LooksLike other ∧ ∀ machine settings table,
          Printout.printSession machine settings table other =
            Printout.printSession machine settings table session)
        (sessions displayRecord.encode) (sessions reusedRecord.encode) := by
  obtain ⟨horigin, htexts, hfile⟩ := hidden_behind_nul
  have hrecords : ∀ record : LoginRecord, records record.encode = [record.encode] := by
    intro record
    have hone := records_flatMap_encode [record] [] (by decide)
    simpa using hone
  have hhost : SameText ([0x70, 0x3a, 0x30] ++ 0 :: [0x3a, 0x31])
      ([0x70, 0x3a, 0x30] ++ 0 :: [0xff]) := .ended _ _ (by decide)
  have hsame : List.Forall₂ SameTexts (records displayRecord.encode)
      (records reusedRecord.encode) := by
    rw [hrecords, hrecords]
    exact .cons sameTexts_reusedRecord .nil
  exact ⟨⟨hhost, horigin _ _ _ false 8 hhost⟩,
    ⟨(htexts _ _).1 sameTexts_reusedRecord.user, (htexts _ _).2 sameTexts_reusedRecord.line⟩,
    hsame, hfile _ _ hsame⟩

end RecordFile

end LoginReport
