import Mathlib.Algebra.Order.Field.Power
import Mathlib.Algebra.Order.Group.Abs
import Mathlib.Data.Rat.Cast.Order
import Mathlib.Tactic.Linarith
import Mathlib.Tactic.Positivity
import Mathlib.Tactic.Ring
import VoiceBus.Proofs.Numeric.Whole

/-!
# How far rounding goes

Rounding to a whole number goes at most one half, so what is nearer than that to a whole number is
rounded to it. A binary number is rounded at its last place, 52 places behind its leading bit: a
number below `2 ^ e` moves by at most `2 ^ (e - 54)`.
-/

namespace VoiceBus.Numeric

variable {x : Rat}

/-! ## To a whole number -/

theorem abs_roundHalfEven_sub_le (nonneg : 0 ≤ x) : |(roundHalfEven x : Rat) - x| ≤ 1 / 2 := by
  obtain ⟨num, same⟩ := Int.eq_ofNat_of_zero_le (Rat.num_nonneg.2 nonneg)
  have rounded : roundHalfEven x = roundDiv num x.den := by
    rw [roundHalfEven, same, Int.toNat_natCast]
  have den : (0 : Rat) < x.den := by exact_mod_cast x.den_pos
  have scaled : x * x.den = num := by
    rw [Rat.mul_den_eq_num, same, Int.cast_natCast]
  obtain ⟨above, below⟩ := roundDiv_near num x.den_pos
  have above : (2 * num : Rat) ≤ 2 * (x.den * roundDiv num x.den) + x.den := by
    exact_mod_cast above
  have below : (2 * (x.den * roundDiv num x.den) : Rat) ≤ 2 * num + x.den := by
    exact_mod_cast below
  rw [rounded, abs_le]
  -- either side is the same bound times the denominator
  constructor <;>
  · refine le_of_mul_le_mul_right ?_ den
    rw [sub_mul, scaled]
    linarith

theorem roundHalfEven_eq_of_near {n : Nat} (nonneg : 0 ≤ x) (near : |x - n| < 1 / 2) :
    roundHalfEven x = n := by
  have apart : |(roundHalfEven x : Rat) - n| < 1 := by
    have path := abs_sub_le (roundHalfEven x : Rat) x n
    have half := abs_roundHalfEven_sub_le nonneg
    linarith
  have whole : |(roundHalfEven x : Int) - n| < 1 := by exact_mod_cast apart
  rw [Int.abs_lt_one_iff] at whole
  omega

namespace Binary64

/-! ## The leading bit -/

theorem leadingBit_natCast {n : Nat} (positive : 0 < n) :
    (2 : Rat) ^ (n.log2 : Int) ≤ n ∧ (n : Rat) < 2 ^ ((n.log2 : Int) + 1) := by
  constructor
  · rw [zpow_natCast]
    exact_mod_cast Nat.log2_self_le positive.ne'
  · rw [← Nat.cast_succ, zpow_natCast]
    exact_mod_cast Nat.lt_log2_self

theorem leadingBit_near (positive : 0 < x) :
    (2 : Rat) ^ ((x.num.toNat.log2 : Int) - (x.den.log2 : Int) - 1) ≤ x ∧
      x < (2 : Rat) ^ ((x.num.toNat.log2 : Int) - (x.den.log2 : Int) + 1) := by
  have den : (0 : Rat) < x.den := by exact_mod_cast x.den_pos
  have num : 0 < x.num := Rat.num_pos.2 positive
  have scaled : x * x.den = (x.num.toNat : Rat) := by
    rw [Rat.mul_den_eq_num, ← Int.cast_natCast, Int.toNat_of_nonneg num.le]
  obtain ⟨numLeast, numMost⟩ := leadingBit_natCast (n := x.num.toNat) (by omega)
  obtain ⟨denLeast, denMost⟩ := leadingBit_natCast x.den_pos
  generalize (x.num.toNat.log2 : Int) = top at numLeast numMost ⊢
  generalize (x.den.log2 : Int) = bottom at denLeast denMost ⊢
  constructor
  · refine le_of_mul_le_mul_right ?_ den
    calc (2 : Rat) ^ (top - bottom - 1) * x.den
        ≤ 2 ^ (top - bottom - 1) * 2 ^ (bottom + 1) :=
          mul_le_mul_of_nonneg_left denMost.le (zpow_nonneg zero_le_two _)
      _ = 2 ^ top := by
          rw [← zpow_add₀ (by decide)]
          congr 1
          omega
      _ ≤ x * x.den := scaled ▸ numLeast
  · refine lt_of_mul_lt_mul_right ?_ den.le
    calc x * x.den < 2 ^ (top + 1) := scaled ▸ numMost
      _ = 2 ^ (top - bottom + 1) * 2 ^ bottom := by
          rw [← zpow_add₀ (by decide)]
          congr 1
          omega
      _ ≤ 2 ^ (top - bottom + 1) * x.den :=
          mul_le_mul_of_nonneg_left denLeast (zpow_nonneg zero_le_two _)

theorem mem_binade (positive : 0 < x) : (2 : Rat) ^ binade x ≤ x ∧ x < 2 ^ (binade x + 1) := by
  obtain ⟨least, most⟩ := leadingBit_near positive
  simp only [binade]
  split
  · next lower => exact ⟨least, by rwa [sub_add_cancel]⟩
  · next upper => exact ⟨not_lt.1 upper, most⟩

theorem lastPlace_le {e : Int} (positive : 0 < x) (below : x < 2 ^ e) (normal : -1021 ≤ e) :
    lastPlace x ≤ e - 53 := by
  have leading : binade x < e :=
    (zpow_lt_zpow_iff_right₀ (by decide : (1 : Rat) < 2)).1 ((mem_binade positive).1.trans_lt below)
  rw [lastPlace]
  omega

/-! ## To a binary number -/

theorem round_nonneg (x : Rat) : 0 ≤ round x := by
  simp only [round]
  split
  · exact le_refl 0
  · exact mul_nonneg (Nat.cast_nonneg _) (zpow_nonneg zero_le_two _)

theorem abs_round_sub_le_half (positive : 0 < x) : |round x - x| ≤ 1 / 2 * 2 ^ lastPlace x := by
  have unit : (0 : Rat) < 2 ^ lastPlace x := zpow_pos two_pos _
  have near := abs_roundHalfEven_sub_le (div_nonneg positive.le unit.le)
  simp only [round, if_neg (not_le.2 positive)]
  calc |(roundHalfEven (x / 2 ^ lastPlace x) : Rat) * 2 ^ lastPlace x - x|
      = |(roundHalfEven (x / 2 ^ lastPlace x) : Rat) - x / 2 ^ lastPlace x| *
          2 ^ lastPlace x := by
        rw [← abs_of_pos unit, ← abs_mul, sub_mul, abs_of_pos unit, div_mul_cancel₀ _ unit.ne']
    _ ≤ 1 / 2 * 2 ^ lastPlace x := mul_le_mul_of_nonneg_right near unit.le

theorem abs_round_sub_le {e : Int} (nonneg : 0 ≤ x) (below : x < 2 ^ e) (normal : -1021 ≤ e) :
    |round x - x| ≤ 2 ^ (e - 54) := by
  rcases nonneg.eq_or_lt with rfl | positive
  · have zero : round 0 = 0 := rfl
    rw [zero, sub_zero, abs_zero]
    exact zpow_nonneg zero_le_two _
  · calc |round x - x| ≤ 1 / 2 * 2 ^ lastPlace x := abs_round_sub_le_half positive
      _ ≤ 1 / 2 * 2 ^ (e - 53) := by
          have last := lastPlace_le positive below normal
          have unit := zpow_le_zpow_right₀ (by decide : (1 : Rat) ≤ 2) last
          linarith
      _ = 2 ^ (e - 54) := by
          have step : e - 53 = e - 54 + 1 := by omega
          rw [step, zpow_add_one₀ (by decide)]
          ring

end Binary64

end VoiceBus.Numeric
