import VoiceBus.Numeric.Binary64

/-! # The shortest decimal that reads back

Of all decimals that round to a given binary number, the one with the fewest digits; among those
the nearest; and between two equally near ones the even one.
-/

namespace VoiceBus.Numeric

/-- A decimal in scientific form: the point stands after the first digit. -/
structure Decimal where
  /-- The digits, each below ten. -/
  digits : List Nat
  /-- The power of ten of the first digit. -/
  exponent : Int
  deriving DecidableEq, Repr

namespace Decimal

/-- The decimal digits of a number, the first one first. -/
def digitsOf (n : Nat) : List Nat := (Nat.toDigits 10 n).map fun c => c.toNat - '0'.toNat

/-- The decimal `count` times ten to the `place`, without zeros at its end. -/
def ofCount (count : Nat) (place : Int) : Decimal :=
  let digits := digitsOf count
  ⟨(digits.reverse.dropWhile (· = 0)).reverse, place + digits.length - 1⟩

/-- The power of ten of the first digit of a positive rational. -/
def leadingPlace (x : Rat) : Int :=
  if 1 ≤ x then (digitsOf x.floor.toNat).length - 1
  else -(digitsOf (x⁻¹.ceil.toNat - 1)).length

/-- Of the two decimals next to `x` on the grid of ten to the `place`, the nearer of those that
read back as `x`. -/
def onGrid? (x : Rat) (place : Int) : Option Nat :=
  let unit := (10 : Rat) ^ place
  let scaled := x / unit
  let below := scaled.floor.toNat
  let readsBack (count : Nat) : Bool := Binary64.round (count * unit) = x
  let nearest := roundHalfEven scaled
  if readsBack nearest then some nearest
  else if readsBack below then some below
  else if readsBack (below + 1) then some (below + 1)
  else none

/-- The shortest decimal on grids from `place` downwards. -/
def firstOnGrid (x : Rat) (place : Int) : Nat → Decimal
  | 0 => ofCount (roundHalfEven (x / (10 : Rat) ^ place)) place
  | finer + 1 =>
    match onGrid? x place with
    | some count => ofCount count place
    | none => firstOnGrid x (place - 1) finer

/-- The shortest decimal that reads back as a positive binary number. Seventeen digits always
do. -/
def shortest (x : Rat) : Decimal := firstOnGrid x (leadingPlace x) 16

end Decimal

/-! ## Writing a decimal -/

/-- How decimals are written. -/
structure DecimalStyle where
  /-- The least exponent of the first digit that is written without an exponent. -/
  leastPlain : Int
  /-- The greatest exponent of the first digit that is written without an exponent. -/
  greatestPlain : Int
  deriving DecidableEq, Repr

namespace Decimal

def digitChar (d : Nat) : Char := Nat.digitChar d

/-- Digits with a point, at least one digit on either side. -/
def plainText (decimal : Decimal) : List Char :=
  let digits := decimal.digits.map digitChar
  if 0 ≤ decimal.exponent then
    let whole := decimal.exponent.toNat + 1
    let fraction := digits.drop whole
    (digits.take whole).rightpad whole '0' ++ ['.'] ++
      (if fraction.isEmpty then ['0'] else fraction)
  else
    ['0', '.'] ++ List.replicate (-decimal.exponent - 1).toNat '0' ++ digits

/-- The first digit, a point if others follow, and the signed exponent. -/
def scientificText (decimal : Decimal) : List Char :=
  let digits := decimal.digits.map digitChar
  let fraction := digits.drop 1
  let sign := if decimal.exponent < 0 then '-' else '+'
  digits.take 1 ++ (if fraction.isEmpty then [] else '.' :: fraction) ++
    ['e', sign] ++ Nat.toDigits 10 decimal.exponent.natAbs

def text (style : DecimalStyle) (decimal : Decimal) : List Char :=
  if style.leastPlain ≤ decimal.exponent ∧ decimal.exponent ≤ style.greatestPlain then
    decimal.plainText
  else decimal.scientificText

end Decimal

/-- The text of a binary number that is not negative, in the fewest digits that read back. -/
def shortestText (style : DecimalStyle) (x : Rat) : List Char :=
  if x ≤ 0 then ['0', '.', '0'] else (Decimal.shortest x).text style

end VoiceBus.Numeric
