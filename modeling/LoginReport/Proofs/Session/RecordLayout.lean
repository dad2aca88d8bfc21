import LoginReport.Session.RecordFile
import Mathlib.Algebra.Order.Ring.Int

set_option autoImplicit false

/-!
# The layout of login records

A record as the system writes it: numbers in two's complement, least significant byte first, and
byte fields of fixed sizes, with padding between them and behind them. Every field that is read is
found at its place, with its sign, and the records of a file are found one behind the other.
-/

namespace LoginReport

structure LoginRecord where
  kind : Int16
  padding : Vector UInt8 2
  pid : Int32
  line : Vector UInt8 32
  identifier : Vector UInt8 4
  user : Vector UInt8 userFieldSize
  host : Vector UInt8 hostFieldSize
  termination : Int16
  status : Int16
  session : Int32
  seconds : Int32
  microseconds : Int32
  address : Vector UInt8 addressFieldSize
  reserved : Vector UInt8 20

/-- The lowest bytes of a number, the lowest first. -/
def littleEndian : Nat → Nat → Bytes
  | 0, _ => []
  | size + 1, n => UInt8.ofNat (n % 256) :: littleEndian size (n / 256)

def twosComplement (size : Nat) (n : Int) : Bytes :=
  littleEndian size (n % (256 ^ size : Nat)).toNat

namespace LoginRecord

def fields (record : LoginRecord) : List Bytes :=
  [twosComplement 2 record.kind.toInt, record.padding.toList, twosComplement 4 record.pid.toInt,
    record.line.toList, record.identifier.toList, record.user.toList, record.host.toList,
    twosComplement 2 record.termination.toInt, twosComplement 2 record.status.toInt,
    twosComplement 4 record.session.toInt, twosComplement 4 record.seconds.toInt,
    twosComplement 4 record.microseconds.toInt, record.address.toList, record.reserved.toList]

def fieldSizes : List Nat := [2, 2, 4, 32, 4, 32, 256, 2, 2, 4, 4, 4, 16, 20]

def encode (record : LoginRecord) : Bytes := record.fields.flatten

end LoginRecord

theorem length_littleEndian (size n : Nat) : (littleEndian size n).length = size := by
  induction size generalizing n with
  | zero => rfl
  | succ size ih => rw [littleEndian, List.length_cons, ih]

@[simp] theorem length_twosComplement (size : Nat) (n : Int) :
    (twosComplement size n).length = size :=
  length_littleEndian size _

namespace RecordFile

theorem unsigned_littleEndian (size n : Nat) : unsigned (littleEndian size n) = n % 256 ^ size := by
  induction size generalizing n with
  | zero => simp [littleEndian, unsigned, Nat.mod_one]
  | succ size ih =>
    have hbyte : (UInt8.ofNat (n % 256)).toNat = n % 256 := by
      rw [UInt8.toNat_ofNat', Nat.mod_eq_of_lt (by omega)]
    rw [littleEndian, unsigned, hbyte, ih, Nat.pow_succ', Nat.mod_mul]

/-- The sign survives where the number fits its bytes. -/
theorem bmod_unsigned_twosComplement (size : Nat) (n : Int)
    (hlow : -((256 ^ size : Nat) / 2 : Int) ≤ n) (hhigh : n < ((256 ^ size : Nat) + 1) / 2) :
    (unsigned (twosComplement size n) : Int).bmod (256 ^ size) = n := by
  have hpos : 0 < 256 ^ size := Nat.pow_pos (by decide)
  have hrest : 0 ≤ n % (256 ^ size : Nat) := Int.emod_nonneg _ (by omega)
  have hless : n % (256 ^ size : Nat) < (256 ^ size : Nat) := Int.emod_lt_of_pos _ (by omega)
  have hvalue : (unsigned (twosComplement size n) : Int) = n % (256 ^ size : Nat) := by
    rw [twosComplement, unsigned_littleEndian, Nat.mod_eq_of_lt (by omega),
      Int.toNat_of_nonneg hrest]
  rw [hvalue, Int.emod_bmod, Int.bmod_eq_of_le hlow hhigh]

/-- A field stands where the fields before it end. -/
theorem slice_flatten (before after : List Bytes) (field : Bytes) (start size : Nat)
    (hstart : (before.map List.length).sum = start) (hsize : field.length = size) :
    slice start size (before ++ field :: after).flatten = field := by
  have hlength : before.flatten.length = start := by
    rw [List.length_flatten, hstart]
  rw [slice, List.flatten_append, List.flatten_cons, ← hlength, List.drop_left, ← hsize,
    List.take_left]

variable (record : LoginRecord)

theorem lengths_fields : record.fields.map List.length = LoginRecord.fieldSizes := by
  simp only [LoginRecord.fields, List.map_cons, List.map_nil, length_twosComplement,
    Vector.length_toList]
  rfl

theorem length_encode : record.encode.length = recordSize := by
  rw [LoginRecord.encode, List.length_flatten, lengths_fields]
  rfl

/-- A field stands where the sizes of the fields before it add up to. -/
theorem slice_encode (i : Nat) (field : Bytes) (hfield : record.fields[i]? = some field) :
    slice (LoginRecord.fieldSizes.take i).sum field.length record.encode = field := by
  obtain ⟨hi, hvalue⟩ := List.getElem?_eq_some_iff.mp hfield
  have hsplit : record.fields = record.fields.take i ++ field :: record.fields.drop (i + 1) := by
    rw [← hvalue, List.getElem_cons_drop, List.take_append_drop]
  have hstart : ((record.fields.take i).map List.length).sum =
      (LoginRecord.fieldSizes.take i).sum := by
    rw [List.map_take, lengths_fields]
  have hslice := slice_flatten (record.fields.take i) (record.fields.drop (i + 1)) field _ _
    hstart rfl
  rwa [← hsplit] at hslice

theorem bytes_encode (i : Nat) {size : Nat} (field : Vector UInt8 size)
    (hfield : record.fields[i]? = some field.toList) :
    slice (LoginRecord.fieldSizes.take i).sum size record.encode = field.toList := by
  have hslice := slice_encode record i _ hfield
  rwa [Vector.length_toList] at hslice

theorem signed_encode (i : Nat) (n : Int32)
    (hfield : record.fields[i]? = some (twosComplement 4 n.toInt)) :
    signed (LoginRecord.fieldSizes.take i).sum 4 record.encode = n.toInt := by
  have hslice := slice_encode record i _ hfield
  rw [length_twosComplement] at hslice
  rw [signed, hslice]
  exact bmod_unsigned_twosComplement 4 _ n.le_toInt n.toInt_lt

theorem kind_encode : kind record.encode = record.kind.toInt := by
  have hslice := slice_encode record 0 _ rfl
  rw [length_twosComplement] at hslice
  change slice 0 2 record.encode = _ at hslice
  rw [kind, signed, hslice]
  exact bmod_unsigned_twosComplement 2 _ record.kind.le_toInt record.kind.toInt_lt

theorem pid_encode : pid record.encode = record.pid.toInt := signed_encode record 2 _ rfl

theorem line_encode : line record.encode = record.line.toList := bytes_encode record 3 _ rfl

theorem user_encode : user record.encode = record.user.toList := bytes_encode record 5 _ rfl

theorem host_encode : host record.encode = record.host.toList := bytes_encode record 6 _ rfl

theorem seconds_encode : seconds record.encode = record.seconds.toInt :=
  signed_encode record 10 _ rfl

theorem microseconds_encode : microseconds record.encode = record.microseconds.toInt :=
  signed_encode record 11 _ rfl

theorem address_encode : address record.encode = record.address.toList :=
  bytes_encode record 12 _ rfl

/-! Records one behind the other. -/

theorem take_succ_append (n : Nat) (encoded rest : Bytes) (hsize : encoded.length = recordSize) :
    take (n + 1) (encoded ++ rest) = encoded :: take n rest := by
  rw [take, ← hsize, List.take_left, List.drop_left]

theorem take_flatMap_encode (stored : List LoginRecord) (tail : Bytes) :
    take stored.length (stored.flatMap LoginRecord.encode ++ tail) =
      stored.map LoginRecord.encode := by
  induction stored with
  | nil => rfl
  | cons record rest ih =>
    rw [List.flatMap_cons, List.append_assoc, List.length_cons,
      take_succ_append _ _ _ (length_encode record), ih, List.map_cons]

theorem length_flatMap_encode (stored : List LoginRecord) :
    (stored.flatMap LoginRecord.encode).length = stored.length * recordSize := by
  induction stored with
  | nil => rfl
  | cons record rest ih =>
    rw [List.flatMap_cons, List.length_append, ih, length_encode, List.length_cons, Nat.succ_mul,
      Nat.add_comm]

/-- What stands behind the last record is not long enough for one more. -/
theorem records_flatMap_encode (stored : List LoginRecord) (tail : Bytes)
    (htail : tail.length < recordSize) :
    records (stored.flatMap LoginRecord.encode ++ tail) = stored.map LoginRecord.encode := by
  have hcount : (stored.flatMap LoginRecord.encode ++ tail).length / recordSize =
      stored.length := by
    rw [List.length_append, length_flatMap_encode, Nat.add_comm,
      Nat.add_mul_div_right _ _ (by decide), Nat.div_eq_of_lt htail, Nat.zero_add]
  rw [records, hcount, take_flatMap_encode]

end RecordFile

end LoginReport
