import Mathlib.Tactic.NormNum
import VoiceBus.Proofs.Config.Members
import VoiceBus.Proofs.Numeric.Nearest

/-!
# Spans saved and loaded as numbers of seconds

A span is saved as a binary number of seconds, rounded twice on the way, and loaded as the nearest
nanosecond. Below `2 ^ 23` seconds both roundings together go less than half a nanosecond, so the
span comes back.
-/

namespace VoiceBus.Duration

open Numeric

/-- The nanoseconds of a span, in seconds. -/
def fraction (span : Duration) : Rat := (span.nanoseconds.val : Rat) / (perSecond : Rat)

variable {span : Duration}

theorem fraction_nonneg (span : Duration) : 0 ≤ span.fraction :=
  div_nonneg (Nat.cast_nonneg _) (Nat.cast_nonneg _)

theorem fraction_le (span : Duration) : span.fraction ≤ 1 - 1 / 1000000000 := by
  have most : (span.nanoseconds.val : Rat) ≤ 999999999 := by
    exact_mod_cast Nat.le_of_lt_succ span.nanoseconds.isLt
  rw [fraction, perSecond, div_le_iff₀ (by norm_num)]
  calc (span.nanoseconds.val : Rat) ≤ 999999999 := most
    _ = (1 - 1 / 1000000000) * ((1000000000 : Nat) : Rat) := by norm_num

theorem abs_round_fraction_sub_le (span : Duration) :
    |Binary64.round span.fraction - span.fraction| ≤ 2 ^ (-54 : Int) := by
  have below : span.fraction < 2 ^ (0 : Int) := by
    have most := span.fraction_le
    rw [zpow_zero]
    linarith
  have near := Binary64.abs_round_sub_le span.fraction_nonneg below (by decide)
  rwa [zero_sub] at near

theorem round_fraction_lt (span : Duration) : Binary64.round span.fraction < 1 := by
  have near := (abs_le.1 span.abs_round_fraction_sub_le).2
  have nothing : (2 : Rat) ^ (-54 : Int) < 1 / 1000000000 := by norm_num
  calc Binary64.round span.fraction
      ≤ span.fraction + 2 ^ (-54 : Int) := sub_le_iff_le_add'.1 near
    _ < (1 - 1 / 1000000000) + 1 / 1000000000 := add_lt_add_of_le_of_lt span.fraction_le nothing
    _ = 1 := sub_add_cancel _ _

theorem toBinary64_eq (short : span.seconds.toNat < 2 ^ 53) :
    span.toBinary64 =
      Binary64.round (span.seconds.toNat + Binary64.round span.fraction) := by
  rw [toBinary64, Binary64.round_natCast short, fraction]

theorem abs_toBinary64_sub_le (short : span.seconds.toNat < 2 ^ 23) :
    |span.toBinary64 - (span.seconds.toNat + span.fraction)| ≤
      2 ^ ((23 : Int) - 54) + 2 ^ (-54 : Int) := by
  have first := span.abs_round_fraction_sub_le
  -- the rounded fraction stays below a full second, so the sum stays below the next power
  have least : 0 ≤ (span.seconds.toNat : Rat) + Binary64.round span.fraction :=
    add_nonneg (Nat.cast_nonneg _) (Binary64.round_nonneg _)
  have below : (span.seconds.toNat : Rat) + Binary64.round span.fraction < 2 ^ (23 : Int) :=
    calc (span.seconds.toNat : Rat) + Binary64.round span.fraction
        < span.seconds.toNat + 1 := add_lt_add_right span.round_fraction_lt _
      _ ≤ 2 ^ (23 : Int) := by exact_mod_cast short
  have second := Binary64.abs_round_sub_le least below (by decide)
  rw [← add_sub_add_left_eq_sub _ _ (span.seconds.toNat : Rat)] at first
  rw [toBinary64_eq (by omega)]
  exact (abs_sub_le _ _ _).trans (add_le_add second first)

theorem seconds_mul_perSecond (span : Duration) :
    ((span.seconds.toNat : Rat) + span.fraction) * perSecond = span.total := by
  have some : (perSecond : Rat) ≠ 0 := by
    rw [perSecond]
    norm_num
  rw [fraction, add_mul, div_mul_cancel₀ _ some, total, Nat.cast_add, Nat.cast_mul]

theorem roundHalfEven_toBinary64 (short : span.seconds.toNat < 2 ^ 23) :
    roundHalfEven (span.toBinary64 * perSecond) = span.total := by
  have least : 0 ≤ span.toBinary64 := Binary64.round_nonneg _
  have unit : (0 : Rat) ≤ perSecond := Nat.cast_nonneg _
  refine roundHalfEven_eq_of_near (mul_nonneg least unit) ?_
  rw [← span.seconds_mul_perSecond, ← sub_mul, abs_mul, abs_of_nonneg unit]
  calc |span.toBinary64 - (span.seconds.toNat + span.fraction)| * (perSecond : Rat)
      ≤ (2 ^ ((23 : Int) - 54) + 2 ^ (-54 : Int)) * (perSecond : Rat) :=
        mul_le_mul_of_nonneg_right (abs_toBinary64_sub_le short) unit
    _ < 1 / 2 := by norm_num [perSecond]

/-- A span below `2 ^ 23` seconds is loaded as it was saved, to the nanosecond. -/
theorem subsecond_kept (span : Duration) (short : span.seconds.toNat < 2 ^ 23) :
    span.toBinary64 = Binary64.round ((span.seconds.toNat : Rat) +
        Binary64.round ((span.nanoseconds.val : Rat) / 10 ^ 9)) ∧
      ofBinary64? span.toBinary64 = some span ∧
      ∀ literal : Json.Number, literal.negative = false →
        literal.magnitude? = some span.toBinary64 →
        (Json.Value.number literal).duration? = some span := by
  have nearest := roundHalfEven_toBinary64 short
  refine ⟨?_, ?_, ?_⟩
  · have unit : (perSecond : Rat) = 10 ^ 9 := by
      rw [perSecond]
      norm_num
    rw [toBinary64_eq (by omega), fraction, unit]
  · rw [ofBinary64?, nearest, ofTotal?_total]
  · intro literal positive value
    apply Json.Value.duration?_of_isSpan
    exact .seconds value (by simp [positive]) nearest.symm

theorem subsecond_kept_at_top :
    (8388607 : UInt64).toNat < 2 ^ 23 ∧
      (⟨8388607, 999469331⟩ : Duration).toBinary64 = 4503599627085595 / 536870912 ∧
      ofBinary64? (⟨8388607, 999469331⟩ : Duration).toBinary64 = some ⟨8388607, 999469331⟩ := by
  have short : (8388607 : UInt64).toNat < 2 ^ 23 := by decide
  exact ⟨short, by decide +kernel, (subsecond_kept ⟨8388607, 999469331⟩ short).2.1⟩

/-- A second later a nanosecond may be lost. -/
example : ofBinary64? (⟨8388608, 1⟩ : Duration).toBinary64 = some ⟨8388608, 2⟩ := by
  decide +kernel

end VoiceBus.Duration
