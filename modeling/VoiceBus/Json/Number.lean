import VoiceBus.Numeric.Binary64

/-! # Number literals

A literal keeps its digits. Reading it as a binary number gathers as many digits as fit 64 bits,
rounds those once, and then multiplies or divides by powers of ten, rounding each time.
-/

namespace VoiceBus.Json

/-- A number literal. An empty fraction stands for none. -/
structure Number where
  negative : Bool := false
  /-- Digits before the point, at least one. -/
  whole : List Char
  fraction : List Char := []
  /-- The power of ten after `e`, if one is written. -/
  exponent : Option Int := none
  deriving DecidableEq, Repr

def digitValue (c : Char) : Nat := c.toNat - '0'.toNat

def digitsValue (digits : List Char) : Nat :=
  digits.foldl (fun value c => 10 * value + digitValue c) 0

namespace Number

/-! ## As a whole number -/

/-- The value of a literal that has digits only: no sign, point or exponent. -/
def toNat? (number : Number) : Option Nat :=
  if !number.negative && number.fraction.isEmpty && number.exponent.isNone then
    some (digitsValue number.whole)
  else none

/-! ## As a binary number -/

/-- The largest significand that is gathered. -/
def maxSignificand : Nat := UInt64.size - 1

/-- Digits gathered so far: their number, the power of ten that belongs to it, and whether a digit
did not fit. -/
structure Gathered where
  significand : Nat := 0
  exponent : Int := 0
  full : Bool := false
  deriving DecidableEq, Repr

/-- Takes a digit before the point. Digits that no longer fit count as zeros. -/
def Gathered.takeWhole (gathered : Gathered) (c : Char) : Gathered :=
  let next := 10 * gathered.significand + digitValue c
  if gathered.full || maxSignificand < next then
    { gathered with exponent := gathered.exponent + 1, full := true }
  else { gathered with significand := next }

/-- Takes a digit after the point. Digits that no longer fit are left out. -/
def Gathered.takeFraction (gathered : Gathered) (c : Char) : Gathered :=
  let next := 10 * gathered.significand + digitValue c
  if gathered.full || maxSignificand < next then { gathered with full := true }
  else { gathered with significand := next, exponent := gathered.exponent - 1 }

/-- The significand and power of ten of a literal. The two sides of the point fill up
independently. -/
def gather (number : Number) : Gathered :=
  let whole := number.whole.foldl Gathered.takeWhole {}
  let all := number.fraction.foldl Gathered.takeFraction { whole with full := false }
  { all with exponent := all.exponent + number.exponent.getD 0 }

/-- The largest power of ten that is applied at once. -/
def maxPower : Nat := 308

/-- A power of ten up to `maxPower`, rounded. -/
def powerOfTen (n : Nat) : Rat := Numeric.Binary64.round ((10 : Rat) ^ n)

/-- Multiplies by a power of ten. It fails beyond the range of binary numbers. Large negative
powers are applied in steps until nothing is left. -/
def scale (x : Rat) (exponent : Int) : Option Rat :=
  if x = 0 then some 0
  else if exponent < -maxPower then
    scale (Numeric.Binary64.round (x / powerOfTen maxPower)) (exponent + maxPower)
  else if exponent < 0 then some (Numeric.Binary64.round (x / powerOfTen exponent.natAbs))
  else if exponent ≤ maxPower then Numeric.Binary64.round? (x * powerOfTen exponent.toNat)
  else none
termination_by (-exponent).toNat
decreasing_by simp only [maxPower] at *; omega

/-- The size of the literal, its sign left out, as a binary number. -/
def magnitude? (number : Number) : Option Rat :=
  let gathered := number.gather
  scale (Numeric.Binary64.round gathered.significand) gathered.exponent

end Number

end VoiceBus.Json
