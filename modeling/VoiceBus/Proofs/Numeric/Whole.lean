import Mathlib.Algebra.Group.Nat.Defs
import VoiceBus.Clock

/-!
# Whole numbers among binary numbers

A whole number below `2 ^ 53` has at most 53 significant bits, so rounding keeps it. A span of that
many whole seconds is therefore a binary number, and the span of this number of seconds is the span
again.
-/

namespace VoiceBus.Numeric

theorem roundDiv_one (n : Nat) : roundDiv n 1 = n := by
  simp [roundDiv, Nat.mod_one]

theorem roundHalfEven_natCast (n : Nat) : roundHalfEven (n : Rat) = n := by
  rw [roundHalfEven, Rat.num_natCast, Rat.den_natCast]
  exact roundDiv_one n

theorem roundDiv_eq_or (num den : Nat) :
    roundDiv num den = num / den ∨ roundDiv num den = num / den + 1 := by
  simp only [roundDiv]
  split
  · exact .inl rfl
  · split
    · exact .inr rfl
    · split
      · exact .inl rfl
      · exact .inr rfl

theorem roundHalfEven_eq_or {x : Rat} (nonneg : 0 ≤ x) :
    roundHalfEven x = x.floor.toNat ∨ roundHalfEven x = x.floor.toNat + 1 := by
  have floor : x.floor.toNat = x.num.toNat / x.den := by
    obtain ⟨num, same⟩ := Int.eq_ofNat_of_zero_le (Rat.num_nonneg.2 nonneg)
    rw [Rat.floor_def, same, ← Int.natCast_ediv, Int.toNat_natCast, Int.toNat_natCast]
  rw [floor]
  exact roundDiv_eq_or _ _

namespace Binary64

variable {n : Nat}

theorem binade_natCast (positive : 0 < n) : binade (n : Rat) = (n.log2 : Int) := by
  have one : Nat.log2 1 = 0 := by decide
  have below : ¬ (n : Rat) < (2 : Rat) ^ ((n.log2 : Int) - (0 : Nat)) := by
    have least : 2 ^ n.log2 ≤ n := Nat.log2_self_le (Nat.ne_of_gt positive)
    rw [Int.natCast_zero, Int.sub_zero, Rat.zpow_natCast, Rat.not_lt]
    exact_mod_cast least
  simp only [binade, Rat.num_natCast, Rat.den_natCast, Int.toNat_natCast, one]
  rw [if_neg below, Int.natCast_zero, Int.sub_zero]

theorem lastPlace_natCast (positive : 0 < n) (small : n < 2 ^ 53) :
    ∃ places : Nat, lastPlace (n : Rat) = -(places : Int) := by
  have top : n.log2 < 53 := (Nat.log2_lt (Nat.ne_of_gt positive)).2 small
  refine ⟨(-lastPlace (n : Rat)).toNat, ?_⟩
  rw [lastPlace, binade_natCast positive]
  omega

theorem round_natCast (small : n < 2 ^ 53) : round (n : Rat) = n := by
  rcases Nat.eq_zero_or_pos n with rfl | positive
  · rfl
  · obtain ⟨places, last⟩ := lastPlace_natCast positive small
    have some : ¬ (n : Rat) ≤ 0 := by
      rw [Rat.not_le]
      exact Rat.natCast_pos.2 positive
    have unit : (2 : Rat) ^ (-(places : Int)) = ((2 ^ places : Nat) : Rat)⁻¹ := by
      rw [Rat.zpow_neg, Rat.zpow_natCast, Rat.natCast_pow]
      rfl
    have nonzero : ((2 ^ places : Nat) : Rat) ≠ 0 := by
      rw [Ne, Rat.natCast_eq_zero_iff]
      exact Nat.ne_of_gt (Nat.two_pow_pos places)
    have scaled : (n : Rat) / (2 : Rat) ^ (-(places : Int)) = ((n * 2 ^ places : Nat) : Rat) := by
      rw [unit, Rat.div_def, Rat.inv_inv, Rat.natCast_mul]
    simp only [round, if_neg some, last]
    rw [scaled, roundHalfEven_natCast, unit, Rat.natCast_mul, Rat.mul_assoc,
      Rat.mul_inv_cancel _ nonzero, Rat.mul_one]

end Binary64

end VoiceBus.Numeric

namespace VoiceBus.Duration

open Numeric

variable {seconds : UInt64}

theorem eq_ofSeconds {span : Duration} (whole : span.nanoseconds = 0) :
    span = ofSeconds span.seconds := by
  cases span
  cases whole
  rfl

theorem toBinary64_ofSeconds (small : seconds.toNat < 2 ^ 53) :
    (ofSeconds seconds).toBinary64 = (seconds.toNat : Rat) := by
  have nothing : ((0 : Nat) : Rat) / (perSecond : Rat) = ((0 : Nat) : Rat) := by
    rw [Rat.div_def]
    exact Rat.zero_mul _
  have sum : (ofSeconds seconds).toBinary64 = Binary64.round
      (Binary64.round (seconds.toNat : Rat) + Binary64.round (((0 : Nat) : Rat) / perSecond)) := rfl
  rw [sum, nothing, Binary64.round_natCast small, Binary64.round_natCast (by decide),
    ← Rat.natCast_add, Nat.add_zero, Binary64.round_natCast small]

theorem total_ofSeconds :
    (ofSeconds seconds).total = roundHalfEven ((seconds.toNat : Rat) * (perSecond : Rat)) := by
  rw [← Rat.natCast_mul, roundHalfEven_natCast]
  exact Nat.add_zero _

end VoiceBus.Duration
