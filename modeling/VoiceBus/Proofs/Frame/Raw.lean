import VoiceBus.Proofs.Crc.Register
import VoiceBus.Proofs.Frame.Image

/-!
# Checking, seen from the bytes

The verdict on bytes is a matter of three parts of them: the announced length, the checksum that
they carry, and the bytes that the checksum covers. All three respect differences, so whether
damage shows does not depend on the frame that is damaged.
-/

namespace VoiceBus.Frame

def lengthField (data : Bytes) : UInt16 := word (data.getD 8 0) (data.getD 9 0)

def sumField (data : Bytes) : UInt16 := word (data.getD 10 0) (data.getD 11 0)

/-- What the checksum covers: all bytes, its own two zero. -/
def covered (data : Bytes) : Bytes := (data.set 10 0).set 11 0

/-- What damage does to the difference between the checksum carried and the checksum computed. -/
def syndrome (mask : Bytes) : UInt16 := Crc.feed 0 (covered mask) ^^^ sumField mask

@[simp] theorem length_covered (data : Bytes) : (covered data).length = data.length := by
  unfold covered
  rw [List.length_set, List.length_set]

/-! ## The parts of a frame -/

theorem lengthField_encode (header : Header) (payload : Bytes) :
    lengthField (header.encode ++ payload) = header.payloadLength := word_bytes _

theorem sumField_encode (header : Header) (payload : Bytes) :
    sumField (header.encode ++ payload) = header.checksum := word_bytes _

theorem covered_encode (header : Header) (payload : Bytes) :
    covered (header.encode ++ payload) = header.encodeUnsummed ++ payload := by
  simp [covered, Header.encodeUnsummed, Header.encode, wordBytes]

theorem verify_of_length_lt {data : Bytes} (enough : Header.size ≤ data.length)
    (h : data.length < Header.size + (lengthField data).toNat) :
    verify data = .error (.truncatedFrame (Header.size + (lengthField data).toNat) data.length) := by
  obtain ⟨header, rest, decoded, parts⟩ := Header.exists_decode enough
  have announced : lengthField data = header.payloadLength := by rw [parts, lengthField_encode]
  rw [announced] at h ⊢
  unfold verify
  rw [decoded]
  exact if_pos h

theorem verify_of_length_eq {data : Bytes}
    (h : data.length = Header.size + (lengthField data).toNat) :
    ∃ frame, verify data = .ok frame ∧
      (frame.valid = true ↔ Crc.checksum (covered data) = sumField data) := by
  obtain ⟨header, rest, decoded, parts⟩ := Header.exists_decode (by omega : Header.size ≤ data.length)
  have announced : lengthField data = header.payloadLength := by rw [parts, lengthField_encode]
  have length : header.payloadLength.toNat = rest.length := by
    have total := congrArg List.length parts
    rw [List.length_append, Header.length_encode] at total
    rw [← announced]
    omega
  have fits := (Header.decode_eq_ok_iff.1 decoded).1
  have checked := verify_encode_append ⟨header, rest⟩ [] length
  rw [List.append_nil] at checked
  rw [parts, covered_encode, sumField_encode]
  exact ⟨_, checked, decide_eq_true_iff⟩

/-! ## Damage -/

theorem getD_maskBytes {data mask : Bytes} (same : data.length = mask.length) (i : Nat) :
    (maskBytes data mask).getD i 0 = data.getD i 0 ^^^ mask.getD i 0 := by
  unfold maskBytes
  simp only [List.getD_eq_getElem?_getD, List.getElem?_zipWith]
  by_cases inside : i < data.length
  · have there : i < mask.length := same ▸ inside
    rw [List.getElem?_eq_getElem inside, List.getElem?_eq_getElem there]
    rfl
  · have outside : mask.length ≤ i := same ▸ Nat.not_lt.1 inside
    rw [List.getElem?_eq_none (Nat.not_lt.1 inside), List.getElem?_eq_none outside]
    rfl

theorem covered_maskBytes {data mask : Bytes} (same : data.length = mask.length) :
    covered (maskBytes data mask) = maskBytes (covered data) (covered mask) := by
  unfold covered maskBytes
  apply List.ext_getElem
  · simp [same]
  · intro i left right
    simp only [List.getElem_set, List.getElem_zipWith]
    split
    · rfl
    · split <;> rfl

theorem div_eq_shiftRight (w : UInt16) : w / (256 : UInt16) = w >>> (8 : UInt16) := by
  rw [← UInt16.toNat_inj, UInt16.toNat_div, UInt16.toNat_shiftRight]
  simp [Nat.shiftRight_eq_div_pow]

theorem word_xor (high low otherHigh otherLow : UInt8) :
    word (high ^^^ otherHigh) (low ^^^ otherLow) = word high low ^^^ word otherHigh otherLow := by
  have first := wordBytes_word high low
  have second := wordBytes_word otherHigh otherLow
  simp only [wordBytes, List.cons.injEq, and_true, div_eq_shiftRight] at first second
  rw [← word_bytes (word high low ^^^ word otherHigh otherLow), div_eq_shiftRight,
    UInt16.shiftRight_xor, UInt16.toUInt8_xor, UInt16.toUInt8_xor, first.1, first.2, second.1,
    second.2]

theorem lengthField_maskBytes {data mask : Bytes} (same : data.length = mask.length) :
    lengthField (maskBytes data mask) = lengthField data ^^^ lengthField mask := by
  unfold lengthField
  rw [getD_maskBytes same, getD_maskBytes same, word_xor]

theorem sumField_maskBytes {data mask : Bytes} (same : data.length = mask.length) :
    sumField (maskBytes data mask) = sumField data ^^^ sumField mask := by
  unfold sumField
  rw [getD_maskBytes same, getD_maskBytes same, word_xor]

theorem verify_maskBytes {wire mask : Bytes} {frame : VerifiedFrame}
    (checked : verify wire = .ok frame) (valid : frame.valid = true)
    (exact : wire.length = Header.size + (lengthField wire).toNat)
    (same : wire.length = mask.length) (spared : lengthField mask = 0) :
    ∃ other, verify (maskBytes wire mask) = .ok other ∧
      (other.valid = true ↔ syndrome mask = 0) := by
  have length : lengthField (maskBytes wire mask) = lengthField wire := by
    rw [lengthField_maskBytes same, spared, UInt16.xor_zero]
  have sum : Crc.checksum (covered wire) = sumField wire := by
    obtain ⟨_, again, verdict⟩ := verify_of_length_eq exact
    rw [checked] at again
    obtain rfl := Except.ok.inj again
    exact verdict.1 valid
  have exactly : (maskBytes wire mask).length =
      Header.size + (lengthField (maskBytes wire mask)).toNat := by
    rw [length_maskBytes same, length, exact]
  have inside : (covered wire).length = (covered mask).length := by
    rw [length_covered, length_covered, same]
  obtain ⟨other, damaged, verdict⟩ := verify_of_length_eq exactly
  refine ⟨other, damaged, ?_⟩
  rw [verdict, covered_maskBytes same, Crc.checksum_maskBytes inside, sumField_maskBytes same, sum,
    UInt16.xor_right_inj, ← UInt16.xor_eq_zero_iff]
  rfl

end VoiceBus.Frame
