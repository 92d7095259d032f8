/-! # Rounding, and binary floating-point numbers of 64 bits

A number that is not negative stands for itself, as an exact rational. An operation is the exact
operation followed by one rounding to 53 significant bits.
-/

namespace VoiceBus.Numeric

/-! ## To a whole number -/

/-- A quotient rounded to the nearest whole number; a half goes to the even neighbour. -/
def roundDiv (num den : Nat) : Nat :=
  let below := num / den
  let twice := 2 * (num % den)
  if twice < den then below
  else if den < twice then below + 1
  else if below % 2 = 0 then below else below + 1

/-- The whole number nearest to a rational that is not negative; a half goes to the even
neighbour. -/
def roundHalfEven (x : Rat) : Nat := roundDiv x.num.toNat x.den

theorem roundDiv_near (num : Nat) {den : Nat} (positive : 0 < den) :
    2 * num ≤ 2 * (den * roundDiv num den) + den ∧
      2 * (den * roundDiv num den) ≤ 2 * num + den := by
  have split := Nat.div_add_mod num den
  have small := Nat.mod_lt num positive
  simp only [roundDiv]
  split
  · omega
  · split
    · rw [Nat.mul_add]
      omega
    · split
      · omega
      · rw [Nat.mul_add]
        omega

theorem roundDiv_half_even {num den : Nat} (h : 2 * (num % den) = den) :
    roundDiv num den % 2 = 0 := by
  simp only [roundDiv, h, Nat.lt_irrefl, if_false]
  split <;> omega

/-! ## To a binary number -/

namespace Binary64

/-- The exponent of the leading bit of a positive rational. -/
def binade (x : Rat) : Int :=
  let guess : Int := (x.num.toNat.log2 : Int) - (x.den.log2 : Int)
  if x < (2 : Rat) ^ guess then guess - 1 else guess

/-- The exponent of the last bit that is kept. Below the smallest normal number the last place
stays where it is. -/
def lastPlace (x : Rat) : Int := max (binade x - 52) (-1074)

/-- The nearest number on the grid of 53 bits; a half goes to the even neighbour. -/
def round (x : Rat) : Rat :=
  if x ≤ 0 then 0
  else
    let unit := (2 : Rat) ^ lastPlace x
    roundHalfEven (x / unit) * unit

/-- The nearest number, if it is below the range's end. -/
def round? (x : Rat) : Option Rat :=
  let nearest := round x
  if nearest < (2 : Rat) ^ (1024 : Nat) then some nearest else none

end Binary64

end VoiceBus.Numeric
