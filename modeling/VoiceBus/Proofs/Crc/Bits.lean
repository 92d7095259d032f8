import Mathlib.Logic.Function.Iterate
import VoiceBus.Proofs.Crc.Register

/-!
# The register, bit by bit

A byte enters the register as eight bits, the most significant first. As long as no more bits came
in than the register has, they are what they would be as a word that was moved up at once. So up to
sixteen bits that differ never cancel out.
-/

namespace VoiceBus

def byteBits (byte : UInt8) : List Bool :=
  (List.range 8).map fun i => byte.toBitVec.getLsbD (7 - i)

/-- The bits of bytes, the most significant of each byte first. -/
def bits (data : Bytes) : List Bool := data.flatMap byteBits

@[simp] theorem length_byteBits (byte : UInt8) : (byteBits byte).length = 8 := by simp [byteBits]

@[simp] theorem length_bits (data : Bytes) : (bits data).length = 8 * data.length := by
  unfold bits
  induction data with
  | nil => rfl
  | cons byte rest ih => simp [ih]; omega

theorem bits_append (first second : Bytes) : bits (first ++ second) = bits first ++ bits second :=
  List.flatMap_append

theorem getElem?_byteBits (byte : UInt8) {i : Nat} (h : i < 8) :
    (byteBits byte)[i]? = some (byte.toBitVec.getLsbD (7 - i)) := by
  unfold byteBits
  rw [List.getElem?_map, List.getElem?_range h]
  rfl

theorem getElem?_bits (data : Bytes) (i : Nat) :
    (bits data)[i]? = data[i / 8]?.map fun byte => byte.toBitVec.getLsbD (7 - i % 8) := by
  induction data generalizing i with
  | nil => simp [bits]
  | cons byte rest ih =>
    have parts : bits (byte :: rest) = byteBits byte ++ bits rest := List.flatMap_cons
    rw [parts]
    by_cases here : i < 8
    · have first : i / 8 = 0 := by omega
      have place : i % 8 = i := by omega
      rw [List.getElem?_append_left (by simpa using here), getElem?_byteBits byte here, first, place]
      rfl
    · have later : i / 8 = (i - 8) / 8 + 1 := by omega
      have place : i % 8 = (i - 8) % 8 := by omega
      rw [List.getElem?_append_right (by simpa using here), length_byteBits, ih, later, place]
      rfl

theorem getElem?_bits_iff (data : Bytes) (i : Nat) :
    (bits data)[i]? = some true ↔ (data.getD (i / 8) 0).toNat.testBit (7 - i % 8) = true := by
  rw [getElem?_bits, List.getD_eq_getElem?_getD]
  cases data[i / 8]? with
  | none => simp
  | some byte => exact Option.some_inj

namespace Crc

def topBit (bit : Bool) : UInt16 := if bit then 0x8000 else 0

def feedBit (register : UInt16) (bit : Bool) : UInt16 := shift (register ^^^ topBit bit)

/-- The word that has these bits at its top. -/
def topWord : List Bool → UInt16
  | [] => 0
  | bit :: rest => topBit bit ^^^ (topWord rest >>> 1)

theorem getLsbD_topBit (bit : Bool) (i : Nat) :
    (topBit bit).toBitVec.getLsbD i = (decide (i = 15) && bit) := by
  cases bit with
  | false => simp [topBit]
  | true =>
    have power : (topBit true).toBitVec = BitVec.twoPow 16 15 := rfl
    rw [power, BitVec.getLsbD_twoPow]
    simp only [Bool.and_true, eq_comm]
    rfl

theorem getLsbD_shiftRight_one (register : UInt16) (i : Nat) :
    (register >>> 1).toBitVec.getLsbD i = register.toBitVec.getLsbD (1 + i) := by
  have moved : (register >>> 1).toBitVec = register.toBitVec >>> 1 := rfl
  rw [moved, BitVec.getLsbD_ushiftRight]

theorem getLsbD_topWord (input : List Bool) {i : Nat} (h : i < 16) :
    (topWord input).toBitVec.getLsbD i = (input[15 - i]?).getD false := by
  induction input generalizing i with
  | nil => simp [topWord]
  | cons bit rest ih =>
    rw [topWord, UInt16.toBitVec_xor, BitVec.getLsbD_xor, getLsbD_topBit, getLsbD_shiftRight_one]
    by_cases top : i = 15
    · rw [top, BitVec.getLsbD_of_ge _ _ (by decide)]
      simp
    · have place : 15 - i = 15 - (1 + i) + 1 := by omega
      rw [ih (by omega), place, List.getElem?_cons_succ]
      simp [top]

theorem topWord_ne_zero {input : List Bool} (short : input.length ≤ 16) (h : true ∈ input) :
    topWord input ≠ 0 := by
  intro zero
  obtain ⟨i, inside, set⟩ := List.getElem_of_mem h
  have bit := getLsbD_topWord input (show 15 - i < 16 by omega)
  have place : 15 - (15 - i) = i := by omega
  rw [zero, place, List.getElem?_eq_getElem inside, set] at bit
  simp at bit

theorem shift_topWord {input : List Bool} (room : input.length < 16) :
    shift (topWord input >>> 1) = topWord input := by
  apply UInt16.toBitVec_inj.1
  apply BitVec.eq_of_getLsbD_eq
  intro i small
  rw [getLsbD_shift _ small, getLsbD_shiftRight_one, getLsbD_shiftRight_one,
    BitVec.getLsbD_of_ge _ (1 + 15) (by decide), Bool.false_and, Bool.xor_false]
  by_cases bottom : i = 0
  · have low := getLsbD_topWord input (show 0 < 16 by decide)
    rw [List.getElem?_eq_none (by omega)] at low
    rw [bottom, low]
    rfl
  · have place : 1 + (i - 1) = i := by omega
    rw [place]
    simp [Nat.pos_of_ne_zero bottom]

theorem foldl_feedBit {input : List Bool} (register : UInt16) (short : input.length ≤ 16) :
    input.foldl feedBit register = shift^[input.length] (register ^^^ topWord input) := by
  induction input generalizing register with
  | nil =>
    unfold topWord
    rw [UInt16.xor_zero]
    rfl
  | cons bit rest ih =>
    rw [List.length_cons] at short
    have room : shift (topWord rest >>> 1) = topWord rest := shift_topWord (by omega)
    calc (bit :: rest).foldl feedBit register
      _ = rest.foldl feedBit (shift (register ^^^ topBit bit)) := rfl
      _ = shift^[rest.length] (shift (register ^^^ topBit bit) ^^^ topWord rest) :=
        ih _ (by omega)
      _ = shift^[rest.length] (shift (register ^^^ topBit bit ^^^ topWord rest >>> 1)) := by
        rw [shift_xor _ (topWord rest >>> 1), room]
      _ = shift^[(bit :: rest).length] (register ^^^ topWord (bit :: rest)) := by
        rw [topWord, ← UInt16.xor_assoc]
        rfl

theorem topWord_byteBits (byte : UInt8) : topWord (byteBits byte) = byte.toUInt16 <<< 8 := by
  apply UInt16.toBitVec_inj.1
  apply BitVec.eq_of_getLsbD_eq
  intro i small
  have moved : (byte.toUInt16 <<< 8).toBitVec = byte.toBitVec.setWidth 16 <<< 8 := rfl
  rw [getLsbD_topWord _ small, moved, BitVec.getLsbD_shiftLeft]
  by_cases high : 8 ≤ i
  · have place : 7 - (15 - i) = i - 8 := by omega
    rw [getElem?_byteBits _ (by omega), place]
    simp [small, show ¬ i < 8 by omega, show i - 8 < 16 by omega]
  · rw [List.getElem?_eq_none (by rw [length_byteBits]; omega)]
    simp
    omega

theorem feedByte_eq_foldl (register : UInt16) (byte : UInt8) :
    feedByte register byte = (byteBits byte).foldl feedBit register := by
  rw [foldl_feedBit register (by simp), topWord_byteBits, length_byteBits]
  rfl

theorem feed_eq_foldl (register : UInt16) (data : Bytes) :
    feed register data = (bits data).foldl feedBit register := by
  induction data generalizing register with
  | nil => rfl
  | cons byte rest ih =>
    have parts : bits (byte :: rest) = byteBits byte ++ bits rest := List.flatMap_cons
    rw [parts, List.foldl_append, ← feedByte_eq_foldl]
    exact ih _

/-! ## Bits that are clear, and a burst between them -/

theorem eq_zero_of_iterate_shift {register : UInt16} {count : Nat}
    (h : shift^[count] register = 0) : register = 0 := by
  induction count generalizing register with
  | zero => exact h
  | succ count ih => exact eq_zero_of_shift_eq_zero (ih h)

theorem foldl_feedBit_clear {input : List Bool} (register : UInt16) (clear : true ∉ input) :
    input.foldl feedBit register = shift^[input.length] register := by
  induction input generalizing register with
  | nil => rfl
  | cons bit rest ih =>
    rw [List.mem_cons, not_or] at clear
    obtain rfl : bit = false := by simpa using Ne.symm clear.1
    have entered : feedBit register false = shift register := by
      unfold feedBit topBit
      simp
    rw [List.foldl_cons, entered, ih _ clear.2]
    rfl

/-- Up to sixteen bits in a row with a set one among them never cancel out. -/
theorem feed_burst_ne_zero {mask : Bytes} {first width : Nat} (narrow : width ≤ 16)
    (within : ∀ i : Nat, (bits mask)[i]? = some true → first ≤ i ∧ i < first + width)
    (set : true ∈ bits mask) : feed 0 mask ≠ 0 := by
  have parts : bits mask = (bits mask).take first ++
      (((bits mask).drop first).take width ++ (bits mask).drop (first + width)) := by
    rw [← List.drop_drop, List.take_append_drop, List.take_append_drop]
  have before : true ∉ (bits mask).take first := by
    intro member
    obtain ⟨i, inside, here⟩ := List.getElem_of_mem member
    rw [List.length_take] at inside
    rw [List.getElem_take] at here
    have := within i (List.getElem?_eq_some_iff.2 ⟨by omega, here⟩)
    omega
  have after : true ∉ (bits mask).drop (first + width) := by
    intro member
    obtain ⟨i, inside, here⟩ := List.getElem_of_mem member
    rw [List.length_drop] at inside
    rw [List.getElem_drop] at here
    have := within (first + width + i) (List.getElem?_eq_some_iff.2 ⟨by omega, here⟩)
    omega
  have among : true ∈ ((bits mask).drop first).take width := by
    rw [parts, List.mem_append, List.mem_append] at set
    rcases set with early | here | late
    · exact absurd early before
    · exact here
    · exact absurd late after
  have short : (((bits mask).drop first).take width).length ≤ 16 := by
    rw [List.length_take]
    omega
  have quiet : shift^[((bits mask).take first).length] 0 = 0 := by
    apply Function.iterate_fixed
    rfl
  intro lost
  rw [feed_eq_foldl, parts, List.foldl_append, List.foldl_append, foldl_feedBit_clear _ before,
    quiet, foldl_feedBit_clear _ after, foldl_feedBit _ short, UInt16.zero_xor] at lost
  exact topWord_ne_zero short among (eq_zero_of_iterate_shift (eq_zero_of_iterate_shift lost))

end Crc

end VoiceBus
