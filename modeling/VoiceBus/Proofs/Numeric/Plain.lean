import Mathlib.Algebra.Field.Rat
import VoiceBus.Numeric.Shortest
import VoiceBus.Proofs.Numeric.Whole

/-!
# The shortest decimal of a whole number

The search for a short decimal goes through coarse grids first and may stop with zeros cut off, but
what it stops at is the number itself, and writing it out puts the zeros back.
-/

namespace VoiceBus.Numeric

namespace Decimal

/-! ## Digits -/

theorem digitChar_toNat_sub {c : Char} (digit : c.isDigit = true) :
    digitChar (c.toNat - '0'.toNat) = c := by
  obtain ⟨least, greatest⟩ : 48 ≤ c.toNat ∧ c.toNat ≤ 57 := by
    simpa [Char.isDigit, UInt32.le_iff_toNat_le] using digit
  apply Char.toNat_inj.1
  rw [digitChar, Nat.toNat_digitChar_of_lt_ten (by simp; omega)]
  simp; omega

theorem map_digitChar_digitsOf (n : Nat) : (digitsOf n).map digitChar = Nat.toDigits 10 n := by
  unfold digitsOf
  rw [List.map_map]
  conv => rhs; rw [← List.map_id (Nat.toDigits 10 n)]
  apply List.map_congr_left
  intro c member
  exact digitChar_toNat_sub (Nat.isDigit_of_mem_toDigits (by decide) (by decide) member)

theorem toDigits_mul_pow {count : Nat} (positive : 0 < count) (zeros : Nat) :
    Nat.toDigits 10 (count * 10 ^ zeros) =
      Nat.toDigits 10 count ++ List.replicate zeros '0' := by
  induction zeros with
  | zero => simp
  | succ zeros ih =>
    have some : 0 < count * 10 ^ zeros := Nat.mul_pos positive (Nat.pow_pos (by decide))
    have grown : count * 10 ^ (zeros + 1) = 10 * (count * 10 ^ zeros) + 0 := by
      rw [Nat.pow_succ]
      ac_rfl
    rw [grown, ← Nat.toDigits_append_toDigits (by decide) some (by decide), ih,
      List.replicate_succ', List.append_assoc]
    rfl

theorem rightpad_strip (backwards : List Nat) (zeros : Nat) :
    (backwards.dropWhile (· = 0)).reverse.rightpad (backwards.length + zeros) 0 =
      backwards.reverse ++ List.replicate zeros 0 := by
  -- each zero that is dropped is one more to fill in
  induction backwards generalizing zeros with
  | nil => simp [List.rightpad]
  | cons d rest ih =>
    by_cases zero : d = 0
    · have more : (d :: rest).length + zeros = rest.length + (zeros + 1) := by
        rw [List.length_cons]
        omega
      rw [List.dropWhile_cons_of_pos (by simpa using zero), more, ih, List.replicate_succ,
        List.reverse_cons, zero]
      simp
    · rw [List.dropWhile_cons_of_neg (by simpa using zero)]
      simp [List.rightpad]

theorem length_toDigits_le {n : Nat} (small : n ≤ 2 ^ 49) : (Nat.toDigits 10 n).length ≤ 15 := by
  rw [Nat.length_toDigits_le_iff (by decide) (by decide)]
  omega

theorem pow_length_toDigits_le {n : Nat} (positive : 0 < n) :
    10 ^ ((Nat.toDigits 10 n).length - 1) ≤ n := by
  rcases Nat.eq_zero_or_pos ((Nat.toDigits 10 n).length - 1) with one | more
  · rw [one]
    exact positive
  · apply Nat.le_of_not_lt
    rw [← Nat.length_toDigits_le_iff (by decide) more]
    omega

/-! ## Writing -/

theorem exponent_ofCount {count : Nat} (positive : 0 < count) (zeros : Nat) :
    (ofCount count zeros).exponent =
      (((Nat.toDigits 10 (count * 10 ^ zeros)).length - 1 : Nat) : Int) := by
  have some : 0 < (Nat.toDigits 10 count).length := Nat.length_toDigits_pos
  rw [toDigits_mul_pow positive, List.length_append, List.length_replicate]
  simp only [ofCount, digitsOf, List.length_map]
  omega

theorem plainText_ofCount {count : Nat} (positive : 0 < count) (zeros : Nat) :
    (ofCount count zeros).plainText = Nat.toDigits 10 (count * 10 ^ zeros) ++ ['.', '0'] := by
  have some : 0 < (digitsOf count).length := by
    rw [digitsOf, List.length_map]
    exact Nat.length_toDigits_pos
  have least : 0 ≤ (ofCount count zeros).exponent := by
    rw [exponent_ofCount positive]
    exact Int.natCast_nonneg _
  have whole : (ofCount count zeros).exponent.toNat + 1 = (digitsOf count).length + zeros := by
    simp only [ofCount]
    omega
  have short : ((ofCount count zeros).digits.map digitChar).length ≤
      (digitsOf count).length + zeros := by
    have kept := (List.dropWhile_sublist (· = 0) (l := (digitsOf count).reverse)).length_le
    simp only [ofCount, List.length_map, List.length_reverse] at kept ⊢
    omega
  have filled : ((ofCount count zeros).digits.map digitChar).rightpad
      ((digitsOf count).length + zeros) '0' = Nat.toDigits 10 (count * 10 ^ zeros) := by
    have zero : digitChar 0 = '0' := rfl
    have strip := congrArg (List.map digitChar) (rightpad_strip (digitsOf count).reverse zeros)
    rw [toDigits_mul_pow positive, ← map_digitChar_digitsOf]
    simpa [List.rightpad, ofCount, zero] using strip
  simp only [plainText, if_pos least, whole, List.take_of_length_le short,
    List.drop_of_length_le short, filled]
  simp

/-! ## Searching -/

variable {n : Nat}

theorem leadingPlace_natCast (positive : 0 < n) :
    leadingPlace (n : Rat) = (((Nat.toDigits 10 n).length - 1 : Nat) : Int) := by
  have one : (1 : Rat) ≤ (n : Rat) := by exact_mod_cast positive
  have some : 0 < (Nat.toDigits 10 n).length := Nat.length_toDigits_pos
  have floor : (n : Rat).floor.toNat = n := by
    rw [← Rat.intCast_natCast, Rat.floor_intCast, Int.toNat_natCast]
  rw [leadingPlace, if_pos one, floor, digitsOf, List.length_map]
  omega

/-- What is found on a grid reads back, and is next to the number. -/
theorem round_of_onGrid? {x : Rat} {place : Int} {count : Nat} (nonneg : 0 ≤ x / (10 : Rat) ^ place)
    (found : onGrid? x place = some count) :
    Binary64.round (count * (10 : Rat) ^ place) = x ∧
      count ≤ (x / (10 : Rat) ^ place).floor.toNat + 1 := by
  have nearest := roundHalfEven_eq_or nonneg
  simp only [onGrid?, decide_eq_true_eq] at found
  split at found
  · next readsBack =>
    cases found
    refine ⟨readsBack, ?_⟩
    omega
  · split at found
    · next readsBack =>
      cases found
      exact ⟨readsBack, Nat.le_succ _⟩
    · split at found
      · next readsBack =>
        cases found
        exact ⟨readsBack, Nat.le_refl _⟩
      · cases found

theorem floor_div_mul_le (n : Nat) {unit : Nat} (positive : 0 < unit) :
    ((n : Rat) / (unit : Rat)).floor.toNat * unit ≤ n := by
  have some : (0 : Rat) < (unit : Rat) := Rat.natCast_pos.2 positive
  have floor := Rat.floor_le ((n : Rat) / (unit : Rat))
  rw [← Int.toNat_of_nonneg (Rat.le_floor_iff.2 (Rat.div_nonneg Rat.natCast_nonneg some.le)),
    Rat.intCast_natCast] at floor
  have scaled := Rat.mul_le_mul_of_nonneg_right floor (Rat.le_of_lt some)
  rw [Rat.div_mul_cancel (Rat.ne_of_gt some)] at scaled
  exact_mod_cast scaled

theorem onGrid?_natCast {place count : Nat} (small : 2 * n < 2 ^ 53)
    (coarse : 10 ^ place ≤ n) (found : onGrid? (n : Rat) place = some count) :
    count * 10 ^ place = n := by
  have unit : (10 : Rat) ^ (place : Int) = ((10 ^ place : Nat) : Rat) := by
    rw [Rat.zpow_natCast, Rat.natCast_pow]
    rfl
  have positive : 0 < 10 ^ place := Nat.pow_pos (by decide)
  have nonneg : 0 ≤ (n : Rat) / ((10 ^ place : Nat) : Rat) :=
    Rat.div_nonneg Rat.natCast_nonneg Rat.natCast_nonneg
  have below := floor_div_mul_le n positive
  rw [← unit] at nonneg below
  obtain ⟨readsBack, next⟩ := round_of_onGrid? nonneg found
  -- so it is at most twice the number, and reading it back changes nothing
  have near : count * 10 ^ place ≤ n + 10 ^ place := by
    have scaled := Nat.mul_le_mul_right (10 ^ place) next
    rw [Nat.succ_mul] at scaled
    omega
  rw [unit, ← Rat.natCast_mul, Binary64.round_natCast (by omega), Rat.natCast_inj] at readsBack
  exact readsBack

theorem onGrid?_units (small : n < 2 ^ 53) : onGrid? (n : Rat) (0 : Nat) = some n := by
  have unit : (10 : Rat) ^ ((0 : Nat) : Int) = 1 := Rat.zpow_zero _
  have whole : (n : Rat) / 1 = (n : Rat) :=
    (Rat.mul_one _).symm.trans (Rat.div_mul_cancel (by decide))
  simp only [onGrid?, unit, whole, roundHalfEven_natCast, Rat.mul_one, Binary64.round_natCast small]
  simp

theorem firstOnGrid_natCast {place finer : Nat} (small : 2 * n < 2 ^ 53)
    (coarse : 10 ^ place ≤ n) (enough : place < finer) :
    ∃ count zeros : Nat, count * 10 ^ zeros = n ∧
      firstOnGrid (n : Rat) place finer = ofCount count zeros := by
  induction finer generalizing place with
  | zero => exact absurd enough (Nat.not_lt_zero _)
  | succ finer ih =>
    rw [firstOnGrid]
    cases found : onGrid? (n : Rat) place with
    | some count => exact ⟨count, place, onGrid?_natCast small coarse found, rfl⟩
    | none =>
      -- The search gets down to the ones, and there it finds the number itself.
      cases place with
      | zero =>
        rw [onGrid?_units (by omega)] at found
        cases found
      | succ place =>
        have next : ((place + 1 : Nat) : Int) - 1 = (place : Int) := by omega
        rw [next]
        refine ih ?_ (by omega)
        exact Nat.le_trans (Nat.pow_le_pow_right (by decide) (Nat.le_succ place)) coarse

theorem shortest_natCast (positive : 0 < n) (small : n ≤ 2 ^ 49) :
    ∃ count zeros : Nat, count * 10 ^ zeros = n ∧ shortest (n : Rat) = ofCount count zeros := by
  have length := length_toDigits_le small
  rw [shortest, leadingPlace_natCast positive]
  exact firstOnGrid_natCast (by omega) (pow_length_toDigits_le positive) (by omega)

end Decimal

theorem shortestText_natCast {style : DecimalStyle} {n : Nat} (least : style.leastPlain ≤ 0)
    (greatest : 14 ≤ style.greatestPlain) (small : n ≤ 2 ^ 49) :
    shortestText style (n : Rat) = Nat.toDigits 10 n ++ ['.', '0'] := by
  rcases Nat.eq_zero_or_pos n with rfl | positive
  · rfl
  · have some : ¬ (n : Rat) ≤ 0 := by
      rw [Rat.not_le]
      exact Rat.natCast_pos.2 positive
    obtain ⟨count, zeros, rfl, short⟩ := Decimal.shortest_natCast positive small
    have counted : 0 < count := Nat.pos_of_mul_pos_right positive
    have length := Decimal.length_toDigits_le small
    have plain : style.leastPlain ≤ (Decimal.ofCount count zeros).exponent ∧
        (Decimal.ofCount count zeros).exponent ≤ style.greatestPlain := by
      rw [Decimal.exponent_ofCount counted]
      omega
    rw [shortestText, if_neg some, short, Decimal.text, if_pos plain,
      Decimal.plainText_ofCount counted]

end VoiceBus.Numeric
