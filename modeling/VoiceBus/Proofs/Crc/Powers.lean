import Mathlib.Dynamics.PeriodicPts.Defs
import Mathlib.Tactic.NormNum.Prime
import VoiceBus.Proofs.Crc.Bits

/-!
# Powers in the register

A one at the bottom of the register, moved up, runs through the powers of the variable modulo the
divisor. When the bits of the register are given values of which the divisor's own add up to
nothing, the sum over a register can be followed as it moves. So every power has an odd number of
bits, and the square of a power can be read off its bits. The powers come back to one after 32767
steps and not before.
-/

namespace VoiceBus.Crc

/-- The register after a one at its bottom was moved up `n` times. -/
def power (n : Nat) : UInt16 := shift^[n] 1

/-! ## Sums over the bits of a register -/

/-- The sum of the values of those of the first `n` places that are set. -/
def sumOver (value : Nat → UInt16) (set : Nat → Bool) : Nat → UInt16
  | 0 => 0
  | n + 1 => sumOver value set n ^^^ if set n then value n else 0

/-- The sum of the values of the places that a register has set. -/
def evaluate (value : Nat → UInt16) (register : UInt16) : UInt16 :=
  sumOver value register.toBitVec.getLsbD 16

variable {value : Nat → UInt16}

theorem sumOver_congr {first second : Nat → Bool} {n : Nat} (same : ∀ i < n, first i = second i) :
    sumOver value first n = sumOver value second n := by
  induction n with
  | zero => rfl
  | succ n ih =>
    rw [sumOver, sumOver, ih fun i below => same i (Nat.lt_succ_of_lt below), same n n.lt_succ_self]

theorem sumOver_xor (first second : Nat → Bool) (n : Nat) :
    sumOver value (fun i => first i ^^ second i) n =
      sumOver value first n ^^^ sumOver value second n := by
  induction n with
  | zero => exact UInt16.xor_zero.symm
  | succ n ih =>
    have last : (if first n ^^ second n then value n else 0) =
        (if first n then value n else 0) ^^^ if second n then value n else 0 := by
      cases first n <;> cases second n <;> simp
    rw [sumOver, ih, last, sumOver, sumOver]
    ac_rfl

theorem sumOver_moved (set : Nat → Bool) (n : Nat) :
    sumOver value (fun i => decide (0 < i) && set (i - 1)) (n + 1) =
      sumOver (fun i => value (i + 1)) set n := by
  induction n with
  | zero => simp [sumOver]
  | succ n ih =>
    rw [sumOver, ih, sumOver]
    simp

theorem sumOver_poly (carry : Bool) :
    sumOver value (fun i => carry && poly.toBitVec.getLsbD i) 16 =
      if carry then value 0 ^^^ value 5 ^^^ value 12 else 0 := by
  cases carry <;> simp [sumOver, poly]

theorem sumOver_map {f : UInt16 → UInt16} (zero : f 0 = 0)
    (linear : ∀ first second, f (first ^^^ second) = f first ^^^ f second) (set : Nat → Bool)
    (n : Nat) : sumOver (fun i => f (value i)) set n = f (sumOver value set n) := by
  induction n with
  | zero => exact zero.symm
  | succ n ih =>
    rw [sumOver, ih, sumOver, linear]
    split
    · rfl
    · rw [zero]

theorem evaluate_xor (first second : UInt16) :
    evaluate value (first ^^^ second) = evaluate value first ^^^ evaluate value second := by
  unfold evaluate
  rw [← sumOver_xor]
  apply sumOver_congr
  intro i _
  rw [UInt16.toBitVec_xor, BitVec.getLsbD_xor]

theorem evaluate_shift (vanishes : value 16 = value 0 ^^^ value 5 ^^^ value 12)
    (register : UInt16) :
    evaluate value (shift register) = evaluate (fun i => value (i + 1)) register := by
  have parts : evaluate value (shift register) = sumOver value _ 16 :=
    sumOver_congr fun i below => getLsbD_shift register below
  rw [sumOver_xor, sumOver_moved, sumOver_poly, ← vanishes] at parts
  exact parts

/-! ## Powers are odd -/

theorem power_succ (n : Nat) : power (n + 1) = shift (power n) := Function.iterate_succ_apply' ..

/-- One when an odd number of bits is set, and zero otherwise. -/
def parity (register : UInt16) : UInt16 := evaluate (fun _ => 1) register

theorem parity_xor (first second : UInt16) :
    parity (first ^^^ second) = parity first ^^^ parity second := evaluate_xor first second

theorem parity_power (n : Nat) : parity (power n) = 1 := by
  induction n with
  | zero => decide +kernel
  | succ n ih =>
    rw [power_succ]
    exact (evaluate_shift (by decide) _).trans ih

/-! ## When powers come back -/

theorem shift_injective : Function.Injective shift := by
  intro first second same
  rw [← UInt16.xor_eq_zero_iff]
  apply eq_zero_of_shift_eq_zero
  rw [shift_xor, same, UInt16.xor_self]

theorem feedByte_injective (byte : UInt8) :
    Function.Injective fun register => feedByte register byte := by
  intro first second same
  have moved : shift^[8] (first ^^^ byte.toUInt16 <<< 8) =
      shift^[8] (second ^^^ byte.toUInt16 <<< 8) := same
  exact (UInt16.xor_left_inj _).1 (shift_injective.iterate 8 moved)

theorem feed_injective (data : Bytes) : Function.Injective fun register => feed register data := by
  induction data with
  | nil => exact Function.injective_id
  | cons byte rest ih => exact ih.comp (feedByte_injective byte)

def square (register : UInt16) : UInt16 := evaluate (fun i => power (2 * i)) register

theorem square_shift (register : UInt16) :
    square (shift register) = shift (shift (square register)) := by
  have vanishes : power (2 * 16) = power (2 * 0) ^^^ power (2 * 5) ^^^ power (2 * 12) := by
    decide +kernel
  have moved (i : Nat) : power (2 * (i + 1)) = shift (shift (power (2 * i))) := by
    rw [← power_succ, ← power_succ]
    rfl
  calc square (shift register)
    _ = evaluate (fun i => power (2 * (i + 1))) register := evaluate_shift vanishes register
    _ = evaluate (fun i => shift (shift (power (2 * i)))) register := by simp only [moved]
    _ = shift (shift (square register)) := by
      unfold square evaluate
      rw [sumOver_map (by rfl) shift_xor, sumOver_map (by rfl) shift_xor]

theorem power_double (n : Nat) : power (2 * n) = square (power n) := by
  induction n with
  | zero => decide +kernel
  | succ n ih =>
    rw [power_succ n, square_shift, ← ih, ← power_succ, ← power_succ]
    rfl

/-- The `n`-th power by squaring, for `n` below `2 ^ count`. -/
def powerBySquares : Nat → Nat → UInt16
  | 0, _ => 1
  | count + 1, n =>
    if n % 2 = 0 then square (powerBySquares count (n / 2))
    else shift (square (powerBySquares count (n / 2)))

theorem powerBySquares_eq {count n : Nat} (below : n < 2 ^ count) :
    powerBySquares count n = power n := by
  induction count generalizing n with
  | zero =>
    obtain rfl : n = 0 := by omega
    rfl
  | succ count ih =>
    rw [Nat.pow_succ] at below
    rw [powerBySquares, ih (by omega), ← power_double, ← power_succ]
    split
    · congr 1
      omega
    · congr 1
      omega

theorem not_minimalPeriod_dvd {n : Nat} (below : n < 2 ^ 13) (other : powerBySquares 13 n ≠ 1) :
    ¬ Function.minimalPeriod shift 1 ∣ n := by
  intro divides
  apply other
  rw [powerBySquares_eq below]
  exact (Function.isPeriodicPt_minimalPeriod shift 1).trans_dvd divides

theorem eq_of_dvd_order {period : Nat} (divides : period ∣ 7 * 31 * 151)
    (first : ¬ period ∣ 7 * 31) (second : ¬ period ∣ 7 * 151) (third : ¬ period ∣ 31 * 151) :
    period = 32767 := by
  obtain ⟨_, c, both, right, rfl⟩ := Nat.dvd_mul.1 divides
  obtain ⟨a, b, left, middle, rfl⟩ := Nat.dvd_mul.1 both
  rw [Nat.dvd_prime (by norm_num)] at left middle right
  rcases left with rfl | rfl <;> rcases middle with rfl | rfl <;> rcases right with rfl | rfl <;>
    omega

/-- The powers come back to one after 32767 steps and not before. -/
theorem minimalPeriod_shift : Function.minimalPeriod shift 1 = 32767 := by
  have again : power (32767 + 1) = power (0 + 1) := by
    rw [← powerBySquares_eq (by decide : 32767 + 1 < 2 ^ 16)]
    decide +kernel
  rw [power_succ 32767, power_succ 0] at again
  have returns : Function.IsPeriodicPt shift 32767 1 := shift_injective again
  have divides : Function.minimalPeriod shift 1 ∣ 7 * 31 * 151 := returns.minimalPeriod_dvd
  apply eq_of_dvd_order divides
  · exact not_minimalPeriod_dvd (by decide) (by decide +kernel)
  · exact not_minimalPeriod_dvd (by decide) (by decide +kernel)
  · exact not_minimalPeriod_dvd (by decide) (by decide +kernel)

theorem power_eq_power_iff (first second : Nat) :
    power first = power second ↔ first % 32767 = second % 32767 := by
  have back (n : Nat) : power (n % 32767) = power n := by
    have again := Function.iterate_mod_minimalPeriod_eq (f := shift) (x := 1) (n := n)
    rwa [minimalPeriod_shift] at again
  have below (n : Nat) : n % 32767 < Function.minimalPeriod shift 1 := by
    rw [minimalPeriod_shift]
    exact Nat.mod_lt n (by decide)
  rw [← back first, ← back second]
  exact Function.iterate_eq_iterate_iff_of_lt_minimalPeriod (below first) (below second)

end VoiceBus.Crc
