import VoiceBus.Json.Token
import VoiceBus.Proofs.Numeric.Whole

/-!
# Numerals

A literal is written part by part, and in front of a character that cannot go on with it it is read
as what it was written for; nothing else is read as a literal. The digits of a number mean this
number: as a whole number, and with a zero behind the point as a binary number.
-/

namespace VoiceBus.Json

variable {n : Nat} {rest : List Char}

namespace Number

/-- The digits of a number. -/
def plain (n : Nat) : Number := { whole := Nat.toDigits 10 n }

/-- The digits of a number, a point and a zero. -/
def pointed (n : Nat) : Number := { whole := Nat.toDigits 10 n, fraction := ['0'] }

end Number

/-! ## How literals are written -/

/-- One decimal digit or more. -/
def IsDigits (s : List Char) : Prop := s ≠ [] ∧ ∀ c ∈ s, c.isDigit = true

/-- Digits before the point: a zero alone, or digits that do not start with zero. -/
inductive IsWhole : List Char → Prop
  | zero : IsWhole ['0']
  | digits {s : List Char} : IsDigits s → s.head? ≠ some '0' → IsWhole s

namespace Number

/-- A fraction is a point and its digits, or nothing. -/
inductive FractionWritten : List Char → List Char → Prop
  | none : FractionWritten [] []
  | digits {s : List Char} : IsDigits s → FractionWritten s ('.' :: s)

/-- A power is digits, with a sign or without. -/
inductive PowerWritten : Int → List Char → Prop
  | unsigned {s : List Char} : IsDigits s → PowerWritten (digitsValue s) s
  | plus {s : List Char} : IsDigits s → PowerWritten (digitsValue s) ('+' :: s)
  | minus {s : List Char} : IsDigits s → PowerWritten (-(digitsValue s)) ('-' :: s)

/-- An exponent is its letter and a power, or nothing. -/
inductive ExponentWritten : Option Int → List Char → Prop
  | none : ExponentWritten none []
  | power {letter : Char} {power : Int} {s : List Char} :
    letter = 'e' ∨ letter = 'E' → PowerWritten power s → ExponentWritten (some power) (letter :: s)

/-- How a literal is written. -/
inductive Written : Number → List Char → Prop
  | positive {whole fraction s t : List Char} {exponent : Option Int} :
    IsWhole whole → FractionWritten fraction s → ExponentWritten exponent t →
    Written ⟨false, whole, fraction, exponent⟩ (whole ++ (s ++ t))
  | negative {whole fraction s t : List Char} {exponent : Option Int} :
    IsWhole whole → FractionWritten fraction s → ExponentWritten exponent t →
    Written ⟨true, whole, fraction, exponent⟩ ('-' :: (whole ++ (s ++ t)))

end Number

theorem isDigits_toDigits : IsDigits (Nat.toDigits 10 n) :=
  ⟨Nat.toDigits_ne_nil, fun _ member => Nat.isDigit_of_mem_toDigits (by decide) (by decide) member⟩

theorem head?_toDigits (positive : 0 < n) : (Nat.toDigits 10 n).head? ≠ some '0' := by
  induction n using Nat.strongRecOn with
  | ind n ih =>
    by_cases one : n < 10
    · rw [Nat.toDigits_of_lt_base one, List.head?_cons, Ne, Option.some_inj, Nat.digitChar_eq_zero]
      omega
    · have front := ih (n / 10) (by omega) (by omega)
      obtain ⟨d, more, digits⟩ :=
        List.exists_cons_of_ne_nil (Nat.toDigits_ne_nil (n := n / 10) (b := 10))
      rw [Nat.toDigits_of_base_le (by decide) (by omega), digits]
      rwa [digits] at front

theorem isWhole_toDigits : IsWhole (Nat.toDigits 10 n) := by
  rcases Nat.eq_zero_or_pos n with rfl | positive
  · exact .zero
  · exact .digits isDigits_toDigits (head?_toDigits positive)

namespace Number

theorem written_plain : (plain n).Written (Nat.toDigits 10 n) := by
  simpa [plain] using Written.positive (isWhole_toDigits (n := n)) .none .none

theorem written_pointed : (pointed n).Written (Nat.toDigits 10 n ++ ['.', '0']) :=
  .positive isWhole_toDigits (.digits ⟨List.cons_ne_nil _ _, List.forall_mem_singleton.2 rfl⟩) .none

end Number

/-! ## Reading -/

/-- What may stand behind a numeral: nothing that would go on with it. -/
def Apart (rest : List Char) : Prop :=
  ∀ c ∈ rest.head?, c.isDigit = false ∧ c ≠ '.' ∧ c ≠ 'e' ∧ c ≠ 'E'

theorem apart_nil : Apart [] := by simp [Apart]

theorem IsDigits.read {digits : List Char} (h : IsDigits digits)
    (apart : ∀ c ∈ rest.head?, c.isDigit = false) :
    readDigits (digits ++ rest) = some (digits, rest) := by
  have stop : rest.takeWhile Char.isDigit = [] ∧ rest.dropWhile Char.isDigit = rest := by
    cases rest with
    | nil => exact ⟨rfl, rfl⟩
    | cons c more => simp [apart c rfl]
  simp [readDigits, List.takeWhile_append_of_pos h.2, List.dropWhile_append_of_pos h.2, stop, h.1]

theorem IsWhole.read {whole : List Char} (h : IsWhole whole)
    (apart : ∀ c ∈ rest.head?, c.isDigit = false) :
    readWhole (whole ++ rest) = some (whole, rest) := by
  cases h with
  | zero => rfl
  | digits digits nonzero =>
    have read := digits.read apart
    obtain ⟨d, more, rfl⟩ := List.exists_cons_of_ne_nil digits.1
    -- A zero in front would be read alone.
    unfold readWhole
    split
    · next zero => exact absurd (congrArg some (List.cons.inj zero).1) nonzero
    · exact read

namespace Number

variable {fraction s t : List Char} {exponent : Option Int} {number : Number}

theorem FractionWritten.isDigit_head? (h : FractionWritten fraction s)
    (apart : ∀ c ∈ rest.head?, c.isDigit = false) : ∀ c ∈ (s ++ rest).head?, c.isDigit = false := by
  cases h with
  | none => exact apart
  | digits =>
    rintro _ ⟨⟩
    rfl

theorem FractionWritten.read (h : FractionWritten fraction s)
    (apart : ∀ c ∈ rest.head?, c.isDigit = false ∧ c ≠ '.') :
    readFraction (s ++ rest) = some (fraction, rest) := by
  cases h with
  | none =>
    rw [List.nil_append]
    unfold readFraction
    split
    · exact absurd rfl (apart '.' rfl).2
    · rfl
  | digits digits => exact digits.read fun c first => (apart c first).1

theorem PowerWritten.read {power : Int} (h : PowerWritten power s)
    (apart : ∀ c ∈ rest.head?, c.isDigit = false) :
    readPower (s ++ rest) = some (power, rest) := by
  cases h with
  | unsigned digits =>
    unfold readPower
    split
    iterate 2
      next _ front =>
        obtain ⟨d, more, rfl⟩ := List.exists_cons_of_ne_nil digits.1
        obtain ⟨rfl, -⟩ := List.cons.inj front
        exact absurd (digits.2 _ (List.mem_cons_self ..)) (by decide)
    · rw [digits.read apart]
      rfl
  | plus digits => simp [readPower, digits.read apart]
  | minus digits => simp [readPower, digits.read apart]

theorem ExponentWritten.head? (h : ExponentWritten exponent t) (apart : Apart rest) :
    ∀ c ∈ (t ++ rest).head?, c.isDigit = false ∧ c ≠ '.' := by
  cases h with
  | none => exact fun c first => ⟨(apart c first).1, (apart c first).2.1⟩
  | power letter =>
    rintro _ ⟨⟩
    rcases letter with rfl | rfl <;> decide

theorem ExponentWritten.read (h : ExponentWritten exponent t) (apart : Apart rest) :
    readExponent (t ++ rest) = some (exponent, rest) := by
  cases h with
  | none =>
    rw [List.nil_append]
    unfold readExponent
    split
    · exact absurd rfl (apart 'e' rfl).2.2.1
    · exact absurd rfl (apart 'E' rfl).2.2.2
    · rfl
  | power letter power =>
    have read := power.read fun c first => (apart c first).1
    rcases letter with rfl | rfl <;> simp [readExponent, read]

theorem readMagnitude_of_written {whole : List Char} (negative : Bool) (first : IsWhole whole)
    (second : FractionWritten fraction s) (third : ExponentWritten exponent t)
    (apart : Apart rest) :
    readMagnitude negative (whole ++ (s ++ t) ++ rest) =
      some (⟨negative, whole, fraction, exponent⟩, rest) := by
  -- a fraction or an exponent starts with a character that ends the digits in front of it
  have behind := third.head? apart
  rw [List.append_assoc, List.append_assoc]
  simp [readMagnitude, first.read (second.isDigit_head? fun c front => (behind c front).1),
    second.read behind, third.read apart]

end Number

theorem IsWhole.exists_cons {whole : List Char} (h : IsWhole whole) :
    ∃ d more, whole = d :: more ∧ d.isDigit = true := by
  cases h with
  | zero => exact ⟨'0', [], rfl, rfl⟩
  | digits digits =>
    obtain ⟨d, more, rfl⟩ := List.exists_cons_of_ne_nil digits.1
    exact ⟨d, more, rfl, digits.2 d (List.mem_cons_self ..)⟩

theorem readToken_digit {d : Char} {more : List Char} (digit : d.isDigit = true) :
    readToken (d :: more) =
      (readMagnitude false (d :: more)).map fun (number, rest) => (.number number, rest) := by
  unfold readToken
  split
  iterate 11
    next same =>
      obtain ⟨rfl, -⟩ := List.cons.inj same
      exact absurd digit (by decide)
  · rfl

theorem Number.Written.read {number : Number} {s : List Char} (h : number.Written s)
    (apart : Apart rest) : readToken (s ++ rest) = some (.number number, rest) := by
  cases h with
  | positive whole fraction exponent =>
    have magnitude := readMagnitude_of_written false whole fraction exponent apart
    obtain ⟨d, more, rfl, digit⟩ := whole.exists_cons
    simp only [List.cons_append] at magnitude ⊢
    rw [readToken_digit digit, magnitude]
    rfl
  | negative whole fraction exponent =>
    have magnitude := readMagnitude_of_written true whole fraction exponent apart
    rw [List.cons_append]
    simp only [readToken]
    rw [magnitude]
    rfl

theorem readToken_plain (apart : Apart rest) :
    readToken (Nat.toDigits 10 n ++ rest) = some (.number (.plain n), rest) :=
  Number.written_plain.read apart

theorem readToken_pointed (apart : Apart rest) :
    readToken (Nat.toDigits 10 n ++ ['.', '0'] ++ rest) = some (.number (.pointed n), rest) :=
  Number.written_pointed.read apart

/-! ## What has been read -/

variable {s digits : List Char}

theorem isDigits_of_readDigits (h : readDigits s = some (digits, rest)) :
    IsDigits digits ∧ s = digits ++ rest := by
  simp only [readDigits] at h
  split at h
  · cases h
  · next some =>
    obtain ⟨rfl, rfl⟩ := Prod.mk.inj (Option.some.inj h)
    rw [List.isEmpty_iff] at some
    exact ⟨⟨some, fun _ member => List.all_eq_true.1 List.all_takeWhile _ member⟩,
      List.takeWhile_append_dropWhile.symm⟩

theorem isWhole_of_readWhole (h : readWhole s = some (digits, rest)) :
    IsWhole digits ∧ s = digits ++ rest := by
  unfold readWhole at h
  split at h
  · cases h
    exact ⟨.zero, rfl⟩
  · next nonzero =>
    obtain ⟨digits, rfl⟩ := isDigits_of_readDigits h
    refine ⟨.digits digits fun zero => ?_, rfl⟩
    obtain ⟨more, rfl⟩ := List.head?_eq_some_iff.1 zero
    exact nonzero _ rfl

namespace Number

theorem fractionWritten_of_readFraction (h : readFraction s = some (digits, rest)) :
    ∃ written, FractionWritten digits written ∧ s = written ++ rest := by
  unfold readFraction at h
  split at h
  · obtain ⟨digits, rfl⟩ := isDigits_of_readDigits h
    exact ⟨_, .digits digits, rfl⟩
  · cases h
    exact ⟨[], .none, rfl⟩

theorem powerWritten_of_readPower {power : Int} (h : readPower s = some (power, rest)) :
    ∃ written, PowerWritten power written ∧ s = written ++ rest := by
  unfold readPower at h
  split at h
  all_goals
    obtain ⟨⟨digits, more⟩, read, same⟩ := Option.map_eq_some_iff.1 h
    obtain ⟨digits, rfl⟩ := isDigits_of_readDigits read
    obtain ⟨rfl, rfl⟩ := Prod.mk.inj same
  · exact ⟨_, .minus digits, rfl⟩
  · exact ⟨_, .plus digits, rfl⟩
  · exact ⟨_, .unsigned digits, rfl⟩

theorem exponentWritten_of_readExponent {exponent : Option Int}
    (h : readExponent s = some (exponent, rest)) :
    ∃ written, ExponentWritten exponent written ∧ s = written ++ rest := by
  unfold readExponent at h
  split at h
  iterate 2
    obtain ⟨⟨power, more⟩, read, same⟩ := Option.map_eq_some_iff.1 h
    obtain ⟨written, power, rfl⟩ := powerWritten_of_readPower read
    obtain ⟨rfl, rfl⟩ := Prod.mk.inj same
    exact ⟨_, .power (by decide) power, rfl⟩
  · cases h
    exact ⟨[], .none, rfl⟩

theorem exists_of_readMagnitude {negative : Bool} {number : Number}
    (h : readMagnitude negative s = some (number, rest)) :
    ∃ whole fraction exponent t u, number = ⟨negative, whole, fraction, exponent⟩ ∧
      IsWhole whole ∧ FractionWritten fraction t ∧ ExponentWritten exponent u ∧
      s = whole ++ (t ++ u) ++ rest := by
  simp only [readMagnitude, Option.bind_eq_bind, Option.bind_eq_some_iff] at h
  obtain ⟨⟨whole, s₁⟩, first, ⟨fraction, s₂⟩, second, ⟨exponent, s₃⟩, third, same⟩ := h
  obtain ⟨rfl, rfl⟩ := Prod.mk.inj (Option.some.inj same)
  obtain ⟨isWhole, rfl⟩ := isWhole_of_readWhole first
  obtain ⟨t, fraction, rfl⟩ := fractionWritten_of_readFraction second
  obtain ⟨u, exponent, rfl⟩ := exponentWritten_of_readExponent third
  exact ⟨_, _, _, t, u, rfl, isWhole, fraction, exponent, by simp⟩

end Number

/-! ## Meaning -/

namespace Number

theorem toNat?_plain : (plain n).toNat? = some n := by
  have value : digitsValue (Nat.toDigits 10 n) = n :=
    Nat.ofDigitChars_eq_foldl.symm.trans Nat.ofDigitChars_ten_toDigits
  simp [plain, toNat?, value]

theorem le_ofDigitChars (digits : List Char) (before : Nat) :
    before ≤ Nat.ofDigitChars 10 digits before := by
  rw [Nat.ofDigitChars_eq_ofDigitChars_zero]
  calc
    before ≤ 10 ^ digits.length * before := Nat.le_mul_of_pos_left _ (Nat.pow_pos (by decide))
    _ ≤ _ := Nat.le_add_right ..

theorem foldl_takeWhole {digits : List Char} {before : Nat}
    (fits : Nat.ofDigitChars 10 digits before ≤ maxSignificand) :
    digits.foldl Gathered.takeWhole { significand := before } =
      { significand := Nat.ofDigitChars 10 digits before } := by
  induction digits generalizing before with
  | nil => rfl
  | cons c digits ih =>
    rw [Nat.ofDigitChars_cons] at fits ⊢
    have next : 10 * before + digitValue c ≤ maxSignificand :=
      Nat.le_trans (le_ofDigitChars digits _) fits
    rw [List.foldl_cons, ← ih fits]
    simp only [Gathered.takeWhole]
    rw [if_neg (by simpa using next)]
    rfl

theorem gather_pointed (small : 10 * n ≤ maxSignificand) :
    (pointed n).gather = { significand := 10 * n, exponent := -1 } := by
  have whole : (Nat.toDigits 10 n).foldl Gathered.takeWhole {} = { significand := n } := by
    have value := Nat.ofDigitChars_ten_toDigits (n := n)
    rw [foldl_takeWhole (by omega), value]
  have fits : ¬ maxSignificand < 10 * n := Nat.not_lt_of_le small
  have zero : digitValue '0' = 0 := rfl
  simp [pointed, gather, whole, Gathered.takeFraction, zero, fits]

theorem powerOfTen_one : powerOfTen 1 = ((10 : Nat) : Rat) := by
  have ten : (10 : Rat) ^ (1 : Nat) = ((10 : Nat) : Rat) := by rw [Rat.pow_one]; rfl
  rw [powerOfTen, ten]
  exact Numeric.Binary64.round_natCast (by decide)

theorem magnitude?_pointed (small : 10 * n < 2 ^ 53) :
    (pointed n).magnitude? = some (n : Rat) := by
  have tenth : ((10 * n : Nat) : Rat) / ((10 : Nat) : Rat) = (n : Rat) := by
    rw [Nat.mul_comm, Rat.natCast_mul, Rat.div_def, Rat.mul_assoc, Rat.mul_inv_cancel _ (by decide),
      Rat.mul_one]
  have fits : 10 * n ≤ maxSignificand := by
    simp only [maxSignificand, UInt64.size]
    omega
  simp only [magnitude?, gather_pointed fits, Numeric.Binary64.round_natCast small]
  -- ten times the number is gathered, and dividing by ten gives the number: no digit is lost
  rw [scale]
  split
  · next zero =>
    obtain rfl : n = 0 := by
      rw [Rat.natCast_eq_zero_iff] at zero
      omega
    rfl
  · rw [if_neg (by decide), if_pos (by decide)]
    have one : (-1 : Int).natAbs = 1 := rfl
    rw [one, powerOfTen_one, tenth, Numeric.Binary64.round_natCast (by omega)]

end Number

end VoiceBus.Json
