import Mathlib.Data.Nat.Bitwise
import VoiceBus.Crc

/-!
# The register is linear

A difference between two messages goes through the register on its own: the checksums differ by
what the register makes of the difference, starting from zero. No step of the register forgets
anything, so a difference that has entered stays.
-/

namespace VoiceBus

/-- Bytes with those bits inverted that a mask names. -/
def maskBytes (data mask : Bytes) : Bytes := data.zipWith (· ^^^ ·) mask

@[simp] theorem length_maskBytes {data mask : Bytes} (h : data.length = mask.length) :
    (maskBytes data mask).length = data.length := by
  simp [maskBytes, h]

namespace Crc

/-! ## One bit -/

theorem toBitVec_shift_one (r : UInt16) : (r <<< 1).toBitVec = r.toBitVec <<< 1 := by
  rfl

theorem top_eq_zero_iff (register : UInt16) :
    register &&& 0x8000 = 0 ↔ register.toBitVec.getLsbD 15 = false := by
  have top : (0x8000 : UInt16).toNat = 2 ^ 15 := rfl
  rw [← UInt16.toNat_inj, UInt16.toNat_and, top, Nat.and_two_pow]
  have bit : register.toNat.testBit 15 = register.toBitVec.getLsbD 15 := rfl
  rw [bit]
  cases register.toBitVec.getLsbD 15 <;> simp

theorem getLsbD_shift (register : UInt16) {i : Nat} (h : i < 16) :
    (shift register).toBitVec.getLsbD i =
      ((decide (0 < i) && register.toBitVec.getLsbD (i - 1)) ^^
        (register.toBitVec.getLsbD 15 && poly.toBitVec.getLsbD i)) := by
  have up : (register <<< 1).toBitVec.getLsbD i =
      (decide (0 < i) && register.toBitVec.getLsbD (i - 1)) := by
    rw [toBitVec_shift_one, BitVec.getLsbD_shiftLeft]
    rcases i with _ | i
    · simp
    · simp [h]
  unfold shift
  split
  · rename_i top
    rw [(top_eq_zero_iff register).1 top, up, Bool.false_and, Bool.xor_false]
  · rename_i top
    rw [top_eq_zero_iff, Bool.not_eq_false] at top
    rw [top, UInt16.toBitVec_xor, BitVec.getLsbD_xor, up, Bool.true_and]

theorem shift_xor (first second : UInt16) :
    shift (first ^^^ second) = shift first ^^^ shift second := by
  apply UInt16.toBitVec_inj.1
  apply BitVec.eq_of_getLsbD_eq
  intro i h
  rw [UInt16.toBitVec_xor, BitVec.getLsbD_xor]
  rw [getLsbD_shift _ h, getLsbD_shift _ h, getLsbD_shift _ h]
  rw [UInt16.toBitVec_xor, BitVec.getLsbD_xor, BitVec.getLsbD_xor]
  grind

theorem eq_zero_of_shift_eq_zero {register : UInt16} (h : shift register = 0) : register = 0 := by
  have bits (i : Nat) (small : i < 16) : (shift register).toBitVec.getLsbD i = false := by
    rw [h]
    simp
  -- only the divisor reaches bit zero
  have top : register.toBitVec.getLsbD 15 = false := by
    have bottom := bits 0 (by decide)
    rw [getLsbD_shift _ (by decide)] at bottom
    simpa [poly] using bottom
  apply UInt16.toBitVec_inj.1
  apply BitVec.eq_of_getLsbD_eq
  intro i small
  by_cases last : i = 15
  · rw [last, top]
    rfl
  · have moved := bits (i + 1) (by omega)
    rw [getLsbD_shift _ (by omega), top] at moved
    simpa using moved

/-! ## One byte -/

theorem shiftByte_xor (first second : UInt16) :
    shiftByte (first ^^^ second) = shiftByte first ^^^ shiftByte second := by
  unfold shiftByte
  simp only [shift_xor]

theorem feedByte_xor (first second : UInt16) (byte mask : UInt8) :
    feedByte (first ^^^ second) (byte ^^^ mask) = feedByte first byte ^^^ feedByte second mask := by
  unfold feedByte
  rw [← shiftByte_xor, UInt8.toUInt16_xor, UInt16.shiftLeft_xor]
  congr 1
  ac_rfl

/-! ## Many bytes -/

theorem feed_maskBytes {data mask : Bytes} (first second : UInt16)
    (h : data.length = mask.length) :
    feed (first ^^^ second) (maskBytes data mask) = feed first data ^^^ feed second mask := by
  induction data generalizing mask first second with
  | nil =>
    rw [List.length_nil, eq_comm, List.length_eq_zero_iff] at h
    rw [h]
    rfl
  | cons byte rest ih =>
    obtain ⟨other, others, rfl⟩ := List.exists_cons_of_length_eq_add_one h.symm
    have later := ih (feedByte first byte) (feedByte second other) (Nat.succ.inj h)
    rw [← feedByte_xor] at later
    exact later

theorem checksum_maskBytes {data mask : Bytes} (h : data.length = mask.length) :
    checksum (maskBytes data mask) = checksum data ^^^ feed 0 mask := by
  have parts := feed_maskBytes initial 0 h
  rwa [UInt16.xor_zero] at parts

theorem feed_zeros (count : Nat) : feed 0 (List.replicate count 0) = 0 := by
  induction count with
  | zero => rfl
  | succ count ih => exact ih

end Crc

end VoiceBus
