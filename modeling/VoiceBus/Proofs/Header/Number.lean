import Mathlib.Algebra.Group.Nat.Defs
import Mathlib.Data.Set.Function
import VoiceBus.Proofs.Header.Codec

/-!
# A header as one number

Read with the most significant byte first, a header is a number of 96 bits in which every field has
its own place. Headers that fit their fields and sequences of twelve bytes correspond one to one.
-/

namespace VoiceBus

/-- The number that bytes spell, the most significant one first. -/
def bigEndian (data : Bytes) : Nat := data.foldl (fun number byte => number * 256 + byte.toNat) 0

theorem bigEndian_concat (data : Bytes) (byte : UInt8) :
    bigEndian (data ++ [byte]) = bigEndian data * 256 + byte.toNat := by
  unfold bigEndian
  rw [List.foldl_append]
  rfl

theorem bigEndian_append_wordBytes (data : Bytes) (w : UInt16) :
    bigEndian (data ++ wordBytes w) = bigEndian data * 2 ^ 16 + w.toNat := by
  have parts := toNat_word (w / 256).toUInt8 w.toUInt8
  rw [word_bytes] at parts
  have cut : data ++ wordBytes w = data ++ [(w / 256).toUInt8] ++ [w.toUInt8] := by
    simp [wordBytes]
  rw [cut, bigEndian_concat, bigEndian_concat, parts]
  omega

namespace Header

/-! ## Where the fields stand -/

theorem bigEndian_front (version audioType channelCount frameFlag : UInt8) (sampleRate : UInt16) :
    bigEndian [version % 16 * 16 + audioType / 16,
        audioType % 16 * 16 + (sampleRate / 4096).toUInt8, (sampleRate / 16).toUInt8,
        sampleRate.toUInt8 % 16 * 16 + channelCount % 4 * 4 + frameFlag % 4] =
      version.toNat % 16 * 2 ^ 28 + audioType.toNat * 2 ^ 20 + sampleRate.toNat * 2 ^ 4 +
        channelCount.toNat % 4 * 2 ^ 2 + frameFlag.toNat % 4 := by
  have a := audioType.toNat_lt
  have r := sampleRate.toNat_lt
  simp only [bigEndian, List.foldl_cons, List.foldl_nil, UInt8.toNat_add, UInt8.toNat_mul,
    UInt8.toNat_div, UInt8.toNat_mod, UInt16.toNat_div, UInt16.toNat_toUInt8, UInt8.reduceToNat,
    UInt16.reduceToNat]
  omega

theorem bigEndian_encode (header : Header) :
    bigEndian header.encode =
      header.version.toNat % 16 * 2 ^ 92 + header.audioType.toNat * 2 ^ 84 +
        header.sampleRate.toNat * 2 ^ 68 + header.channelCount.toNat % 4 * 2 ^ 66 +
        header.frameFlag.toNat % 4 * 2 ^ 64 + header.sequence.toNat * 2 ^ 48 +
        header.timestamp.toNat * 2 ^ 32 + header.payloadLength.toNat * 2 ^ 16 +
        header.checksum.toNat := by
  unfold encode
  rw [bigEndian_append_wordBytes, bigEndian_append_wordBytes, bigEndian_append_wordBytes,
    bigEndian_append_wordBytes, bigEndian_front]
  omega

/-! ## Headers that fit -/

theorem truncate_narrow_eq_self_iff (field : NarrowField) (value : UInt8) :
    field.truncate value = value ↔ value ≤ field.max := by
  have v := value.toNat_lt
  cases field <;>
    simp only [NarrowField.truncate, NarrowField.max, NarrowField.limit, ← UInt8.toNat_inj,
      UInt8.toNat_mod, UInt8.le_iff_toNat_le, UInt8.reduceToNat, UInt8.reduceSub] <;>
    omega

theorem truncate_eq_self_iff (header : Header) :
    header.truncate = header ↔ header.validate = .ok () := by
  rw [validate_eq_ok_iff]
  cases header
  simp only [truncate, Header.mk.injEq, truncate_narrow_eq_self_iff, true_and, and_true]
  rfl

theorem decode_encode_eq_self_iff (header : Header) :
    decode header.encode = .ok header ↔ header.validate = .ok () := by
  have read := decode_encode header []
  rw [List.append_nil] at read
  rw [read, Except.ok.injEq, truncate_eq_self_iff]

theorem decode_eq_error_iff {data : Bytes} {error : FrameError} :
    decode data = .error error ↔
      data.length < size ∧ error = .truncatedHeader size data.length := by
  constructor
  · intro failed
    have short : data.length < size := by
      by_contra enough
      obtain ⟨header, rest, decoded, -⟩ := exists_decode (Nat.not_lt.1 enough)
      rw [decoded] at failed
      cases failed
    rw [decode_eq_error short] at failed
    exact ⟨short, (Except.error.inj failed).symm⟩
  · rintro ⟨short, rfl⟩
    exact decode_eq_error short

theorem exists_decode_valid {data : Bytes} (enough : size ≤ data.length) :
    ∃ header, decode data = .ok header ∧ header.validate = .ok () ∧
      header.encode = data.take size := by
  obtain ⟨header, rest, decoded, -⟩ := exists_decode enough
  refine ⟨header, decoded, ?_, encode_of_decode decoded⟩
  rw [← truncate_eq_self_iff]
  exact (decode_eq_ok_iff.1 decoded).1

theorem bijOn_encode :
    Set.BijOn encode {header | header.validate = .ok ()} {data | data.length = size} := by
  refine ⟨fun header _ => length_encode header, ?_, ?_⟩
  · intro header fits other otherFits same
    rw [encode_inj, (truncate_eq_self_iff header).2 fits,
      (truncate_eq_self_iff other).2 otherFits] at same
    exact same
  · intro data length
    obtain ⟨header, -, fits, parts⟩ := exists_decode_valid (Nat.le_of_eq length.symm)
    refine ⟨header, fits, ?_⟩
    rw [parts, ← length, List.take_length]

/-- Headers that fit and sequences of twelve bytes correspond one to one, field by field. -/
theorem codec_bijective :
    (∀ header : Header, header.encode.length = 12 ∧ bigEndian header.encode =
      header.version.toNat % 16 * 2 ^ 92 + header.audioType.toNat * 2 ^ 84 +
        header.sampleRate.toNat * 2 ^ 68 + header.channelCount.toNat % 4 * 2 ^ 66 +
        header.frameFlag.toNat % 4 * 2 ^ 64 + header.sequence.toNat * 2 ^ 48 +
        header.timestamp.toNat * 2 ^ 32 + header.payloadLength.toNat * 2 ^ 16 +
        header.checksum.toNat) ∧
    (∀ (header : Header) (rest : Bytes), decode (header.encode ++ rest) = .ok { header with
      version := header.version % 16
      channelCount := header.channelCount % 4
      frameFlag := header.frameFlag % 4 }) ∧
    (∀ data : Bytes, 12 ≤ data.length → ∃ header, decode data = .ok header ∧
      header.validate = .ok () ∧ header.encode = data.take 12) ∧
    (∀ header : Header, decode header.encode = .ok header ↔ header.validate = .ok ()) ∧
    (∀ (data : Bytes) (error : FrameError), decode data = .error error ↔
      data.length < 12 ∧ error = .truncatedHeader 12 data.length) ∧
    Set.BijOn encode {header | header.validate = .ok ()} {data | data.length = 12} :=
  ⟨fun header => ⟨length_encode header, bigEndian_encode header⟩, decode_encode,
    fun _ => exists_decode_valid, decode_encode_eq_self_iff, fun _ _ => decode_eq_error_iff,
    bijOn_encode⟩

/-- A header whose first four bytes spell five fields, and a byte behind it. -/
def packedBytes : Bytes :=
  [0x1A, 0xBC, 0xDE, 0xF7, 0x00, 0x01, 0x00, 0x02, 0x00, 0x03, 0x00, 0x04, 0xFF]

theorem packedBytes_decode :
    12 ≤ packedBytes.length ∧
    ∃ header : Header, decode packedBytes = .ok header ∧ header.validate = .ok () ∧
      header.encode = packedBytes.dropLast ∧ header.audioType = 0xAB ∧
      header.sampleRate = 0xCDEF ∧ header.channelCount = 1 ∧ header.frameFlag = 3 := by
  obtain ⟨header, decoded, fits, front⟩ := codec_bijective.2.2.1 packedBytes (by decide)
  have read : decode packedBytes = .ok ⟨1, 0xAB, 0xCDEF, 1, 3, 1, 2, 3, 4⟩ := by rfl
  obtain rfl := Except.ok.inj (decoded.symm.trans read)
  exact ⟨by decide, _, decoded, fits, front, rfl, rfl, rfl, rfl⟩

end Header

end VoiceBus
