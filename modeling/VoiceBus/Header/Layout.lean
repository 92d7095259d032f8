import VoiceBus.Header.Basic
import VoiceBus.Octets

/-! # The twelve bytes of a header

From the top: version in 4 bits, audio type in 8, sample rate in 16, channel count in 2 and frame
flag in 2, then sequence number, timestamp, payload length and checksum in 16 each. Decoding what
`encode` wrote gives the header as a frame carries it, and encoding what `decode` read gives the
bytes back.
-/

namespace VoiceBus.Header

/-- The bytes of a header. Narrow fields lose the bits that do not fit. -/
def encode (header : Header) : Bytes :=
  [header.version % 16 * 16 + header.audioType / 16,
    header.audioType % 16 * 16 + (header.sampleRate / 4096).toUInt8,
    (header.sampleRate / 16).toUInt8,
    header.sampleRate.toUInt8 % 16 * 16 + header.channelCount % 4 * 4 + header.frameFlag % 4] ++
  wordBytes header.sequence ++ wordBytes header.timestamp ++
  wordBytes header.payloadLength ++ wordBytes header.checksum

/-- The bytes of a header with its checksum zero, which is what the checksum covers. -/
def encodeUnsummed (header : Header) : Bytes := { header with checksum := 0 }.encode

/-- Reads the header that the bytes start with. -/
def decode : Bytes → Except FrameError Header
  | b0 :: b1 :: b2 :: b3 :: s0 :: s1 :: t0 :: t1 :: l0 :: l1 :: c0 :: c1 :: _ =>
    .ok {
      version := b0 / 16
      audioType := b0 % 16 * 16 + b1 / 16
      sampleRate := (b1 % 16).toUInt16 * 4096 + b2.toUInt16 * 16 + (b3 / 16).toUInt16
      channelCount := b3 / 4 % 4
      frameFlag := b3 % 4
      sequence := word s0 s1
      timestamp := word t0 t1
      payloadLength := word l0 l1
      checksum := word c0 c1 }
  | data => .error (.truncatedHeader size data.length)

/-! ## Both ways -/

@[simp] theorem length_encode (header : Header) : header.encode.length = size := rfl

@[simp] theorem length_encodeUnsummed (header : Header) : header.encodeUnsummed.length = size := rfl

theorem decode_eq_error {data : Bytes} (h : data.length < size) :
    decode data = .error (.truncatedHeader size data.length) := by
  match data with
  | _ :: _ :: _ :: _ :: _ :: _ :: _ :: _ :: _ :: _ :: _ :: _ :: _ =>
    simp [size] at h
    omega
  | [] | [_] | [_, _] | [_, _, _] | [_, _, _, _] | [_, _, _, _, _] | [_, _, _, _, _, _]
  | [_, _, _, _, _, _, _] | [_, _, _, _, _, _, _, _] | [_, _, _, _, _, _, _, _, _]
  | [_, _, _, _, _, _, _, _, _, _] | [_, _, _, _, _, _, _, _, _, _, _] => rfl

theorem decode_encode (header : Header) (rest : Bytes) :
    decode (header.encode ++ rest) = .ok header.truncate := by
  have v := header.version.toNat_lt
  have a := header.audioType.toNat_lt
  have r := header.sampleRate.toNat_lt
  have c := header.channelCount.toNat_lt
  have f := header.frameFlag.toNat_lt
  simp only [encode, wordBytes, List.cons_append, List.nil_append, decode, word_bytes, truncate,
    NarrowField.truncate, NarrowField.limit, Except.ok.injEq, Header.mk.injEq, and_true,
    ← UInt8.toNat_inj, ← UInt16.toNat_inj, UInt8.toNat_add, UInt8.toNat_mul, UInt8.toNat_div,
    UInt8.toNat_mod, UInt16.toNat_add, UInt16.toNat_mul, UInt16.toNat_div, UInt16.toNat_toUInt8,
    UInt8.toNat_toUInt16, UInt8.reduceToNat, UInt16.reduceToNat]
  refine ⟨?_, ?_, ?_, ?_, ?_⟩ <;> omega

theorem encode_of_decode {data : Bytes} {header : Header} (h : decode data = .ok header) :
    header.encode = data.take size := by
  match data, h with
  | b0 :: b1 :: b2 :: b3 :: s0 :: s1 :: t0 :: t1 :: l0 :: l1 :: c0 :: c1 :: rest, h =>
    have h0 := b0.toNat_lt
    have h1 := b1.toNat_lt
    have h2 := b2.toNat_lt
    have h3 := b3.toNat_lt
    simp only [decode, Except.ok.injEq] at h
    subst h
    simp only [encode, wordBytes_word, List.cons_append, List.nil_append, size,
      List.take_succ_cons, List.take_zero, List.cons.injEq, and_true, ← UInt8.toNat_inj,
      UInt8.toNat_add, UInt8.toNat_mul, UInt8.toNat_div, UInt8.toNat_mod, UInt16.toNat_add,
      UInt16.toNat_mul, UInt16.toNat_div, UInt16.toNat_toUInt8, UInt8.toNat_toUInt16,
      UInt8.reduceToNat, UInt16.reduceToNat]
    refine ⟨?_, ?_, ?_, ?_⟩ <;> omega

end VoiceBus.Header
