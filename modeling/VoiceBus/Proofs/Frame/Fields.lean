import Mathlib.Data.List.Induction
import VoiceBus.Proofs.Crc.Powers
import VoiceBus.Proofs.Frame.Burst
import VoiceBus.Proofs.Header.Number

/-!
# The checksum and the fields of the header

Every bit of a header belongs to one field, and no field has more than sixteen. So two headers that
differ in one field differ in a burst, which no payload behind them makes up for. The checksum field
is the only one that does not count.
-/

namespace VoiceBus

inductive HeaderField
  | version
  | audioType
  | sampleRate
  | channelCount
  | frameFlag
  | sequence
  | timestamp
  | payloadLength
  | checksum
  deriving DecidableEq, Repr

namespace HeaderField

def value (header : Header) : HeaderField → Nat
  | version => header.version.toNat
  | audioType => header.audioType.toNat
  | sampleRate => header.sampleRate.toNat
  | channelCount => header.channelCount.toNat
  | frameFlag => header.frameFlag.toNat
  | sequence => header.sequence.toNat
  | timestamp => header.timestamp.toNat
  | payloadLength => header.payloadLength.toNat
  | checksum => header.checksum.toNat

/-- The number of bits of the field in a frame. -/
def width : HeaderField → Nat
  | version => 4
  | channelCount | frameFlag => 2
  | audioType => 8
  | sampleRate | sequence | timestamp | payloadLength | checksum => 16

/-- The number of bits behind the field. -/
def place : HeaderField → Nat
  | version => 92
  | audioType => 84
  | sampleRate => 68
  | channelCount => 66
  | frameFlag => 64
  | sequence => 48
  | timestamp => 32
  | payloadLength => 16
  | checksum => 0

def all : List HeaderField :=
  [version, audioType, sampleRate, channelCount, frameFlag, sequence, timestamp, payloadLength,
    checksum]

theorem exists_of_bit {bit : Nat} (h : bit < 96) :
    ∃ field ∈ all, field.place ≤ bit ∧ bit < field.place + field.width := by
  revert bit
  decide

theorem width_le (field : HeaderField) : field.width ≤ 16 := by cases field <;> decide

theorem bigEndian_div_mod (field : HeaderField) (header : Header) :
    bigEndian header.encode / 2 ^ field.place % 2 ^ field.width = field.value header.truncate := by
  have a := header.audioType.toNat_lt
  have r := header.sampleRate.toNat_lt
  have s := header.sequence.toNat_lt
  have t := header.timestamp.toNat_lt
  have l := header.payloadLength.toNat_lt
  have c := header.checksum.toNat_lt
  rw [Header.bigEndian_encode]
  cases field <;>
    simp only [place, width, value, Header.truncate, NarrowField.truncate, NarrowField.limit,
      UInt8.toNat_mod, UInt8.reduceToNat] <;>
    omega

end HeaderField

/-! ## Bits of bytes -/

theorem getElem?_bits_eq_testBit (data : Bytes) {i : Nat} (h : i < 8 * data.length) :
    (bits data)[i]? = some ((bigEndian data).testBit (8 * data.length - 1 - i)) := by
  induction data using List.reverseRecOn with
  | nil => simp at h
  | append_singleton data byte ih =>
    have last : bits [byte] = byteBits byte := List.flatMap_singleton ..
    have number : bigEndian (data ++ [byte]) = 2 ^ 8 * bigEndian data + byte.toNat := by
      rw [bigEndian_concat, Nat.mul_comm]
      rfl
    rw [List.length_append, List.length_singleton] at h ⊢
    rw [bits_append, last, number, Nat.testBit_two_pow_mul_add _ byte.toNat_lt]
    by_cases before : i < 8 * data.length
    · have place : 8 * (data.length + 1) - 1 - i - 8 = 8 * data.length - 1 - i := by omega
      rw [List.getElem?_append_left (by simpa using before), ih before, if_neg (by omega), place]
    · have place : 8 * (data.length + 1) - 1 - i = 7 - (i - 8 * data.length) := by omega
      rw [List.getElem?_append_right (by simpa using before), length_bits,
        getElem?_byteBits _ (by omega), if_pos (by omega), place]
      rfl

namespace Header

variable {header other : Header}

theorem testBit_encode (header : Header) {field : HeaderField} {bit : Nat}
    (above : field.place ≤ bit) (below : bit < field.place + field.width) :
    (bigEndian header.encode).testBit bit =
      (field.value header.truncate).testBit (bit - field.place) := by
  rw [← field.bigEndian_div_mod, Nat.testBit_mod_two_pow, Nat.testBit_div_two_pow,
    decide_eq_true (by omega), Bool.true_and, Nat.sub_add_cancel above]

theorem eq_of_value_eq (same : ∀ field : HeaderField, field.value header = field.value other) :
    header = other := by
  cases header
  cases other
  rw [Header.mk.injEq]
  exact ⟨UInt8.toNat_inj.1 (same .version), UInt8.toNat_inj.1 (same .audioType),
    UInt16.toNat_inj.1 (same .sampleRate), UInt8.toNat_inj.1 (same .channelCount),
    UInt8.toNat_inj.1 (same .frameFlag), UInt16.toNat_inj.1 (same .sequence),
    UInt16.toNat_inj.1 (same .timestamp), UInt16.toNat_inj.1 (same .payloadLength),
    UInt16.toNat_inj.1 (same .checksum)⟩

theorem differsWithin_encode {field : HeaderField} (same : ∀ any : HeaderField, any ≠ field →
    any.value header.truncate = any.value other.truncate) :
    Frame.DiffersWithin (96 - field.place - field.width) field.width header.encode
      other.encode := by
  intro i inside differs
  have bit (header : Header) :
      (bits header.encode)[i]? = some ((bigEndian header.encode).testBit (95 - i)) :=
    getElem?_bits_eq_testBit header.encode inside
  rw [length_encode, size] at inside
  obtain ⟨any, -, above, below⟩ := HeaderField.exists_of_bit (by omega : 95 - i < 96)
  by_cases own : any = field
  · subst own
    omega
  · refine absurd ?_ differs
    rw [bit, bit, testBit_encode header above below, testBit_encode other above below, same any own]

/-- What the checksum covers of a header. -/
def unsummed (header : Header) : Header := { header with checksum := 0 }

theorem value_unsummed (header : Header) {field : HeaderField} (covers : field ≠ .checksum) :
    field.value header.unsummed.truncate = field.value header.truncate := by
  cases field with
  | checksum => exact absurd rfl covers
  | _ => rfl

theorem value_unsummed_congr {field : HeaderField} (same : field ≠ .checksum →
      field.value header.truncate = field.value other.truncate) :
    field.value header.unsummed.truncate = field.value other.unsummed.truncate := by
  by_cases own : field = .checksum
  · subst own
    rfl
  · rw [value_unsummed header own, value_unsummed other own, same own]

end Header

namespace Frame

variable {header other : Header}

theorem checksum_eq_iff {field : HeaderField} (payload : Bytes) (covers : field ≠ .checksum)
    (same : ∀ any : HeaderField, any ≠ field → any ≠ .checksum →
      any.value header.truncate = any.value other.truncate) :
    checksum header payload = checksum other payload ↔
      field.value header.truncate = field.value other.truncate := by
  have others (any : HeaderField) (apart : any ≠ field) :
      any.value header.unsummed.truncate = any.value other.unsummed.truncate :=
    Header.value_unsummed_congr (same any apart)
  constructor
  · intro equal
    have front : Crc.feed Crc.initial header.unsummed.encode =
        Crc.feed Crc.initial other.unsummed.encode := by
      apply Crc.feed_injective payload
      simp only [← Crc.feed_append]
      exact equal
    have length : other.unsummed.encode.length = header.unsummed.encode.length := rfl
    by_contra differ
    refine feed_ne_of_differsWithin Crc.initial length ?_ field.width_le
      (Header.differsWithin_encode others) front
    intro bytes
    apply differ
    rw [← Header.value_unsummed header covers, ← Header.value_unsummed other covers,
      Header.encode_inj.1 bytes]
  · intro equal
    have all : header.unsummed.truncate = other.unsummed.truncate := by
      apply Header.eq_of_value_eq
      intro any
      by_cases own : any = field
      · subst own
        exact Header.value_unsummed_congr fun _ => equal
      · exact others any own
    have bytes : header.encodeUnsummed = other.encodeUnsummed := Header.encode_inj.2 all
    unfold checksum
    rw [bytes]

/-- Headers that differ in one covered field have different checksums, whatever the payload. -/
theorem checksum_depends_on_fields (header other : Header) (payload : Bytes) :
    (∀ field : HeaderField, field ≠ .checksum →
      (∀ any : HeaderField, any ≠ .checksum →
        (any.value header.truncate ≠ any.value other.truncate ↔ any = field)) →
      checksum header payload ≠ checksum other payload) ∧
    ((∀ any : HeaderField, any ≠ .checksum →
        any.value header.truncate = any.value other.truncate) →
      checksum header payload = checksum other payload) := by
  constructor
  · intro field covers differ equal
    refine (differ field covers).2 rfl ((checksum_eq_iff payload covers ?_).1 equal)
    intro any apart counts
    exact Classical.not_not.1 (mt (differ any counts).1 apart)
  · intro same
    have agree := same .version (by decide)
    exact (checksum_eq_iff payload (by decide) fun any _ counts => same any counts).2 agree

/-- A header that is too wide in three fields. -/
def wideHeader : Header := ⟨17, 3, 16000, 5, 6, 65535, 1000, 2, 0⟩

/-- What a frame carries of it, with another checksum. -/
def narrowHeader : Header := ⟨1, 3, 16000, 1, 2, 65535, 1000, 2, 77⟩

def renumberedHeader : Header := { narrowHeader with sequence := 0 }

theorem renumbered_differs :
    (HeaderField.sequence ≠ .checksum ∧
      (∀ any : HeaderField, any ≠ .checksum → (any.value wideHeader.truncate ≠
        any.value renumberedHeader.truncate ↔ any = .sequence)) ∧
      checksum wideHeader [72, 105] ≠ checksum renumberedHeader [72, 105]) ∧
    (∀ any : HeaderField, any ≠ .checksum →
      any.value wideHeader.truncate = any.value narrowHeader.truncate) ∧
    checksum wideHeader [72, 105] = checksum narrowHeader [72, 105] := by
  have differ : ∀ any : HeaderField, any ≠ .checksum → (any.value wideHeader.truncate ≠
      any.value renumberedHeader.truncate ↔ any = .sequence) := by
    intro any counts
    cases any with
    | checksum => exact absurd rfl counts
    | _ => decide
  have same : ∀ any : HeaderField, any ≠ .checksum →
      any.value wideHeader.truncate = any.value narrowHeader.truncate := by
    intro any counts
    cases any with
    | checksum => exact absurd rfl counts
    | _ => rfl
  exact ⟨⟨by decide, differ, (checksum_depends_on_fields wideHeader renumberedHeader _).1
    .sequence (by decide) differ⟩, same,
    (checksum_depends_on_fields wideHeader narrowHeader _).2 same⟩

end Frame

end VoiceBus
