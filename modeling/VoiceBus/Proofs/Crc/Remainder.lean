import Mathlib.Algebra.CharP.Two
import Mathlib.Algebra.Field.ZMod
import Mathlib.Algebra.Polynomial.Div
import VoiceBus.Frame.Basic
import VoiceBus.Proofs.Crc.Bits

/-!
# The register as a remainder

A register is a polynomial over two elements, its lowest bit the constant term, and so is a message,
its first bit the leading one. Moving the register up multiplies by the variable and takes the
divisor away once if it must. So what a message leaves in the register is a remainder of polynomial
division, in however many pieces the message comes.
-/

namespace VoiceBus.Crc

open Polynomial

def coefficient (bit : Bool) : ZMod 2 := if bit then 1 else 0

/-- The divisor with its leading term. -/
noncomputable def divisor : (ZMod 2)[X] := X ^ 16 + X ^ 12 + X ^ 5 + 1

noncomputable def ofRegister (register : UInt16) : (ZMod 2)[X] :=
  ∑ i ∈ Finset.range 16, C (coefficient (register.toBitVec.getLsbD i)) * X ^ i

/-- Bits as a polynomial, the first one in front of the highest power. -/
noncomputable def ofBits : List Bool → (ZMod 2)[X]
  | [] => 0
  | bit :: rest => C (coefficient bit) * X ^ rest.length + ofBits rest

noncomputable def ofBytes (data : Bytes) : (ZMod 2)[X] := ofBits (bits data)

theorem coefficient_xor (first second : Bool) :
    coefficient (first ^^ second) = coefficient first + coefficient second := by
  cases first <;> cases second <;> decide

theorem coefficient_injective : Function.Injective coefficient := by decide

/-! ## Registers -/

theorem coeff_ofRegister (register : UInt16) (i : Nat) :
    (ofRegister register).coeff i = coefficient (register.toBitVec.getLsbD i) := by
  unfold ofRegister
  simp only [finsetSum_coeff, coeff_C_mul, coeff_X_pow, mul_ite, mul_one, mul_zero,
    Finset.sum_ite_eq, Finset.mem_range]
  by_cases inside : i < 16
  · rw [if_pos inside]
  · rw [if_neg inside, BitVec.getLsbD_of_ge _ _ (Nat.not_lt.1 inside)]
    rfl

theorem ofRegister_xor (first second : UInt16) :
    ofRegister (first ^^^ second) = ofRegister first + ofRegister second := by
  ext i
  rw [coeff_add, coeff_ofRegister, coeff_ofRegister, coeff_ofRegister, UInt16.toBitVec_xor,
    BitVec.getLsbD_xor, coefficient_xor]

theorem degree_ofRegister_lt (register : UInt16) : (ofRegister register).degree < 16 := by
  refine (degree_lt_iff_coeff_zero _ 16).2 fun i above => ?_
  rw [coeff_ofRegister, BitVec.getLsbD_of_ge _ _ above]
  rfl

theorem ofRegister_injective : Function.Injective ofRegister := by
  intro first second same
  apply UInt16.toBitVec_inj.1
  apply BitVec.eq_of_getLsbD_eq
  intro i _
  apply coefficient_injective
  rw [← coeff_ofRegister, same, coeff_ofRegister]

theorem bijOn_ofRegister :
    Set.BijOn ofRegister Set.univ {polynomial | polynomial.degree < 16} := by
  refine ⟨fun register _ => degree_ofRegister_lt register, ofRegister_injective.injOn, ?_⟩
  intro target small
  have zero := (degree_lt_iff_coeff_zero target 16).1 small
  refine ⟨topWord ((List.range 16).map fun i => decide (target.coeff (15 - i) = 1)), trivial, ?_⟩
  ext i
  rw [coeff_ofRegister]
  by_cases inside : i < 16
  · have value (c : ZMod 2) : coefficient (decide (c = 1)) = c := by fin_cases c <;> rfl
    have place : 15 - (15 - i) = i := by omega
    rw [getLsbD_topWord _ inside, List.getElem?_map, List.getElem?_range (by omega),
      Option.map_some, Option.getD_some, place, value]
  · rw [BitVec.getLsbD_of_ge _ _ (Nat.not_lt.1 inside), zero i (Nat.not_lt.1 inside)]
    rfl

/-! ## One bit -/

theorem ofRegister_topBit (bit : Bool) :
    ofRegister (topBit bit) = C (coefficient bit) * X ^ 15 := by
  ext i
  rw [coeff_ofRegister, getLsbD_topBit, coeff_C_mul, coeff_X_pow]
  by_cases top : i = 15
  · simp [top]
  · rw [if_neg top, mul_zero, decide_eq_false top]
    rfl

theorem ofRegister_mul_X (register : UInt16) :
    ofRegister register * X =
      ofRegister (register <<< 1) + C (coefficient (register.toBitVec.getLsbD 15)) * X ^ 16 := by
  ext i
  rw [coeff_add, coeff_ofRegister, toBitVec_shift_one, BitVec.getLsbD_shiftLeft, coeff_C_mul,
    coeff_X_pow]
  cases i with
  | zero => simp [coefficient]
  | succ i =>
    rw [coeff_mul_X, coeff_ofRegister, Nat.add_sub_cancel]
    by_cases top : i = 15
    · simp [top, coefficient]
    · rw [if_neg (by omega), mul_zero, add_zero]
      by_cases inside : i + 1 < 16
      · simp [inside]
      · rw [BitVec.getLsbD_of_ge _ _ (by omega : 16 ≤ i)]
        simp

theorem divisor_eq : divisor = X ^ 16 + ofRegister poly := by
  unfold divisor ofRegister
  simp [Finset.sum_range_succ, poly, coefficient]
  ring

theorem ofRegister_shift (register : UInt16) :
    ofRegister (shift register) =
      ofRegister register * X + C (coefficient (register.toBitVec.getLsbD 15)) * divisor := by
  rw [ofRegister_mul_X, divisor_eq]
  unfold shift
  split
  next clear =>
    rw [(top_eq_zero_iff register).1 clear]
    simp [coefficient]
  next set =>
    rw [top_eq_zero_iff, Bool.not_eq_false] at set
    have one : C (coefficient true) = 1 := C_1
    rw [set, one, one_mul, one_mul, ofRegister_xor, add_assoc, ← add_assoc (X ^ 16),
      CharTwo.add_self_eq_zero, zero_add]

theorem divisor_dvd_feedBit (register : UInt16) (bit : Bool) :
    divisor ∣ ofRegister register * X + C (coefficient bit) * X ^ 16 -
      ofRegister (feedBit register bit) := by
  have entered : ofRegister (register ^^^ topBit bit) * X =
      ofRegister register * X + C (coefficient bit) * X ^ 16 := by
    rw [ofRegister_xor, ofRegister_topBit]
    ring
  unfold feedBit
  rw [ofRegister_shift, entered, sub_add_cancel_left, dvd_neg]
  exact dvd_mul_left _ _

/-! ## Messages -/

theorem divisor_dvd_foldl (register : UInt16) (input : List Bool) :
    divisor ∣ ofRegister register * X ^ input.length + ofBits input * X ^ 16 -
      ofRegister (input.foldl feedBit register) := by
  induction input generalizing register with
  | nil => simp [ofBits]
  | cons bit rest ih =>
    -- the first bit's difference counts for as much more as there are bits behind it
    have first := (divisor_dvd_feedBit register bit).mul_right (X ^ rest.length)
    have both := dvd_add first (ih (feedBit register bit))
    rw [List.length_cons, ofBits, List.foldl_cons]
    convert both using 1
    ring

theorem monic_divisor : divisor.Monic := by
  rw [divisor_eq]
  exact monic_X_pow_add (degree_ofRegister_lt poly)

theorem degree_divisor : divisor.degree = 16 := by
  rw [divisor_eq, degree_add_eq_left_of_degree_lt, degree_X_pow]
  · rfl
  · rw [degree_X_pow]
    exact degree_ofRegister_lt poly

theorem ofRegister_feed (register : UInt16) (data : Bytes) :
    ofRegister (feed register data) =
      (ofRegister register * X ^ (8 * data.length) + ofBytes data * X ^ 16) %ₘ divisor := by
  have multiple := divisor_dvd_foldl register (bits data)
  rw [length_bits, ← feed_eq_foldl] at multiple
  have below : (ofRegister (feed register data)).degree < divisor.degree := by
    rw [degree_divisor]
    exact degree_ofRegister_lt _
  rw [← (modByMonic_eq_self_iff monic_divisor).2 below]
  exact (modByMonic_eq_of_dvd_sub monic_divisor multiple).symm

theorem ofRegister_checksum (data : Bytes) :
    ofRegister (checksum data) =
      (ofRegister 0xFFFF * X ^ (8 * data.length) + ofBytes data * X ^ 16) %ₘ divisor :=
  ofRegister_feed initial data

theorem foldl_feed (register : UInt16) (pieces : List Bytes) :
    pieces.foldl feed register = feed register pieces.flatten := List.foldl_flatten.symm

theorem getLast?_registers (register : UInt16) (pieces : List Bytes) :
    (registers register pieces).getLast? = some (pieces.foldl feed register) := by
  induction pieces generalizing register with
  | nil => rfl
  | cons piece rest ih =>
    rw [registers, List.getLast?_cons, ih]
    rfl

/-- Fed with a message in any pieces, a register is a remainder of polynomial division. -/
theorem register_is_remainder :
    Set.BijOn ofRegister Set.univ {polynomial | polynomial.degree < 16} ∧
    (∀ (register : UInt16) (pieces : List Bytes),
      (registers register pieces).getLast? = some (pieces.foldl feed register) ∧
      ofRegister (pieces.foldl feed register) =
        (ofRegister register * X ^ (8 * pieces.flatten.length) +
          ofBytes pieces.flatten * X ^ 16) %ₘ divisor) ∧
    (∀ data : Bytes, ofRegister (checksum data) =
      (ofRegister 0xFFFF * X ^ (8 * data.length) + ofBytes data * X ^ 16) %ₘ divisor) ∧
    ∀ (header : Header) (payload : Bytes), ofRegister (Frame.checksum header payload) =
      (ofRegister 0xFFFF * X ^ (8 * (header.encodeUnsummed ++ payload).length) +
        ofBytes (header.encodeUnsummed ++ payload) * X ^ 16) %ₘ divisor := by
  refine ⟨bijOn_ofRegister, ?_, ofRegister_checksum, ?_⟩
  · intro register pieces
    refine ⟨getLast?_registers register pieces, ?_⟩
    rw [foldl_feed, ofRegister_feed]
  · intro header payload
    exact ofRegister_checksum (header.encodeUnsummed ++ payload)

end VoiceBus.Crc
