import VoiceBus.Json.Token

/-!
# Text between quotes

Text is written unit by unit, and the units are joined to characters. What the writer makes of a
character is one unit that stands for this character, so written text is read back whatever its
characters are.
-/

namespace VoiceBus.Json

/-! ## How text is written -/

/-- How one unit is written. -/
inductive TextUnit.Written : TextUnit → List Char → Prop
  | plain {c : Char} : c ≠ '"' → c ≠ '\\' → 0x20 ≤ c.toNat → Written (.char c) [c]
  | named {letter c : Char} : namedChar? letter = some c → Written (.char c) ['\\', letter]
  | code {a b c d : Char} {unit : Nat} :
    codeUnit? a b c d = some unit → Written (.code unit) ['\\', 'u', a, b, c, d]

/-- The units are written one after the other. -/
inductive UnitsWritten : List TextUnit → List Char → Prop
  | nil : UnitsWritten [] []
  | cons {unit : TextUnit} {units : List TextUnit} {s more : List Char} :
    unit.Written s → UnitsWritten units more → UnitsWritten (unit :: units) (s ++ more)

/-- The units name these characters. A surrogate names one with its partner only. -/
inductive Joins : List TextUnit → List Char → Prop
  | nil : Joins [] []
  | char {c : Char} {units : List TextUnit} {s : List Char} :
    Joins units s → Joins (.char c :: units) (c :: s)
  | code {n : Nat} {units : List TextUnit} {s : List Char} :
    isHighSurrogate n = false → isLowSurrogate n = false → Joins units s →
    Joins (.code n :: units) (Char.ofNat n :: s)
  | pair {high low : Nat} {units : List TextUnit} {s : List Char} :
    isHighSurrogate high = true → isLowSurrogate low = true → Joins units s →
    Joins (.code high :: .code low :: units) (pairChar high low :: s)

variable {unit : TextUnit} {units added : List TextUnit} {s rest : List Char}

theorem readUnits_plain {c : Char} (units : List TextUnit) (rest : List Char) (quote : c ≠ '"')
    (backslash : c ≠ '\\') (printable : 0x20 ≤ c.toNat) :
    readUnits units (c :: rest) = readUnits (.char c :: units) rest := by
  rw [readUnits.eq_def]
  split
  iterate 4 simp_all
  next same =>
    obtain ⟨rfl, rfl⟩ := List.cons.inj same
    simp [backslash]
    omega

theorem TextUnit.Written.read (h : unit.Written s) (units : List TextUnit) (rest : List Char) :
    readUnits units (s ++ rest) = readUnits (unit :: units) rest := by
  cases h with
  | plain quote backslash printable => exact readUnits_plain units rest quote backslash printable
  | @named letter c named =>
    rw [List.cons_append, List.cons_append, List.nil_append, readUnits.eq_def]
    split
    · next nothing => cases nothing
    · next same => exact absurd (List.cons.inj same).1 (by decide)
    · next same =>
      -- A code unit has no named letter.
      obtain ⟨rfl, -⟩ := by simpa using same
      cases named
    · next same =>
      obtain ⟨rfl, rfl⟩ := by simpa using same
      simp [named]
    · next other same =>
      obtain ⟨rfl, rfl⟩ := List.cons.inj same
      exact absurd rfl (other letter rest rfl)
  | code unit => simp [readUnits, unit]

theorem UnitsWritten.read (h : UnitsWritten added s) (units : List TextUnit) (rest : List Char) :
    readUnits units (s ++ '"' :: rest) = some (units.reverse ++ added, rest) := by
  induction h generalizing units with
  | nil => simp [readUnits]
  | cons first _ ih => rw [List.append_assoc, first.read, ih, List.reverse_cons, List.append_assoc,
      List.singleton_append]

theorem unitsWritten_of_readUnits {read : List TextUnit}
    (h : readUnits units s = some (read, rest)) :
    ∃ added written, read = units.reverse ++ added ∧ UnitsWritten added written ∧
      s = written ++ '"' :: rest := by
  fun_induction readUnits units s with
  | case1 => cases h
  | case2 =>
    cases h
    exact ⟨[], [], (List.append_nil _).symm, .nil, rfl⟩
  | case3 _ _ _ _ _ _ _ known ih =>
    obtain ⟨added, written, rfl, more, rfl⟩ := ih h
    exact ⟨_, _, by simp, .cons (.code known) more, rfl⟩
  | case4 => cases h
  | case5 _ _ _ _ _ known ih =>
    obtain ⟨added, written, rfl, more, rfl⟩ := ih h
    exact ⟨_, _, by simp, .cons (.named known) more, rfl⟩
  | case6 => cases h
  | case7 => cases h
  | case8 _ c _ quote _ _ plain ih =>
    obtain ⟨added, written, rfl, more, rfl⟩ := ih h
    simp only [Bool.or_eq_true, decide_eq_true_eq, not_or] at plain
    exact ⟨_, _, by simp, .cons (.plain quote plain.1 (Nat.le_of_not_lt plain.2)) more, rfl⟩

/-! ### Joining -/

theorem Joins.foldlM (h : Joins units s) (chars : List Char) :
    units.foldlM Joined.take ⟨chars, none⟩ = some ⟨s.reverse ++ chars, none⟩ := by
  induction h generalizing chars with
  | nil => rfl
  | char _ ih => simp [Joined.take, ih]
  | code high low _ ih => simp [Joined.take, high, low, ih]
  | pair high low _ ih => simp [Joined.take, high, low, ih]

theorem joins_of_foldlM (units : List TextUnit) :
    (∀ chars joined, units.foldlM Joined.take ⟨chars, none⟩ = some ⟨joined, none⟩ →
      ∃ s, Joins units s ∧ joined = s.reverse ++ chars) ∧
    ∀ high chars joined, isHighSurrogate high = true →
      units.foldlM Joined.take ⟨chars, some high⟩ = some ⟨joined, none⟩ →
      ∃ s, Joins (.code high :: units) s ∧ joined = s.reverse ++ chars := by
  -- the two parts need each other: a high surrogate leads to the second, its partner back
  induction units with
  | nil =>
    refine ⟨?_, nofun⟩
    rintro chars _ ⟨⟩
    exact ⟨[], .nil, rfl⟩
  | cons unit units ih =>
    obtain ⟨whole, half⟩ := ih
    constructor
    · intro chars joined folded
      cases unit with
      | char c =>
        obtain ⟨s, joins, rfl⟩ := whole (c :: chars) joined folded
        exact ⟨c :: s, .char joins, by simp⟩
      | code n =>
        cases high : isHighSurrogate n with
        | true =>
          have step : Joined.take ⟨chars, none⟩ (.code n) = some ⟨chars, some n⟩ := by
            simp [Joined.take, high]
          rw [List.foldlM_cons, step] at folded
          exact half n chars joined high folded
        | false =>
          cases low : isLowSurrogate n with
          | true =>
            have step : Joined.take ⟨chars, none⟩ (.code n) = none := by
              simp [Joined.take, high, low]
            rw [List.foldlM_cons, step] at folded
            cases folded
          | false =>
            have step : Joined.take ⟨chars, none⟩ (.code n) =
                some ⟨Char.ofNat n :: chars, none⟩ := by
              simp [Joined.take, high, low]
            rw [List.foldlM_cons, step] at folded
            obtain ⟨s, joins, rfl⟩ := whole _ joined folded
            exact ⟨Char.ofNat n :: s, .code high low joins, by simp⟩
    · intro first chars joined high folded
      cases unit with
      | char c => cases folded
      | code n =>
        cases low : isLowSurrogate n with
        | true =>
          have step : Joined.take ⟨chars, some first⟩ (.code n) =
              some ⟨pairChar first n :: chars, none⟩ := by
            simp [Joined.take, low]
          rw [List.foldlM_cons, step] at folded
          obtain ⟨s, joins, rfl⟩ := whole _ joined folded
          exact ⟨pairChar first n :: s, .pair high low joins, by simp⟩
        | false =>
          have step : Joined.take ⟨chars, some first⟩ (.code n) = none := by
            simp [Joined.take, low]
          rw [List.foldlM_cons, step] at folded
          cases folded

theorem joinUnits_eq_some_iff {text : String} :
    joinUnits units = some text ↔ Joins units text.toList := by
  constructor
  · intro joined
    unfold joinUnits at joined
    split at joined
    · next chars folded =>
      obtain ⟨s, joins, rfl⟩ := (joins_of_foldlM units).1 [] chars folded
      obtain rfl := Option.some.inj joined
      simpa using joins
    · cases joined
  · intro joins
    simp [joinUnits, joins.foldlM []]

/-! ## One character -/

/-- Between whole characters, the unit is read as this character. -/
def TextUnit.Means (unit : TextUnit) (c : Char) : Prop :=
  ∀ chars : List Char, Joined.take ⟨chars, none⟩ unit = some ⟨c :: chars, none⟩

theorem TextUnit.means_char (c : Char) : (TextUnit.char c).Means c := fun _ => rfl

theorem TextUnit.means_code {c : Char} (low : c.toNat < 0xD800) :
    (TextUnit.code c.toNat).Means c := by
  intro chars
  have high : isHighSurrogate c.toNat = false := by
    simp only [isHighSurrogate, Bool.and_eq_false_iff, decide_eq_false_iff_not]
    omega
  have second : isLowSurrogate c.toNat = false := by
    simp only [isLowSurrogate, Bool.and_eq_false_iff, decide_eq_false_iff_not]
    omega
  simp [Joined.take, high, second]

theorem hexValue?_digitChar : ∀ n < 16, hexValue? (Nat.digitChar n) = some n := by decide

theorem codeUnit?_digitChar {n : Nat} (small : n < 256) :
    codeUnit? '0' '0' (Nat.digitChar (n / 16)) (Nat.digitChar (n % 16)) = some n := by
  have zero : hexValue? '0' = some 0 := rfl
  have split : n / 16 * 16 + n % 16 = n := by omega
  simp [codeUnit?, zero, hexValue?_digitChar (n / 16) (by omega),
    hexValue?_digitChar (n % 16) (by omega), split]

theorem written_escapeChar (c : Char) :
    ∃ unit : TextUnit, unit.Means c ∧ unit.Written (escapeChar c) := by
  unfold escapeChar
  split
  iterate 7 exact ⟨.char _, TextUnit.means_char _, .named rfl⟩
  next notQuote notBackslash _ _ _ _ _ =>
    split
    · next control =>
      exact ⟨.code c.toNat, TextUnit.means_code (by omega),
        .code (codeUnit?_digitChar (n := c.toNat) (by omega))⟩
    · next plain =>
      exact ⟨.char c, TextUnit.means_char c,
        .plain notQuote notBackslash (Nat.le_of_not_lt plain)⟩

/-! ## Whole text -/

theorem unitsWritten_escaped (text : List Char) :
    ∃ units : List TextUnit, UnitsWritten units (text.flatMap escapeChar) ∧
      ∀ chars : List Char, units.foldlM Joined.take ⟨chars, none⟩ =
        some ⟨text.reverse ++ chars, none⟩ := by
  induction text with
  | nil => exact ⟨[], .nil, fun _ => rfl⟩
  | cons c text ih =>
    obtain ⟨unit, means, first⟩ := written_escapeChar c
    obtain ⟨units, others, joined⟩ := ih
    refine ⟨unit :: units, .cons first others, fun chars => ?_⟩
    rw [List.foldlM_cons, means chars]
    simp [joined]

theorem UnitsWritten.readToken (h : UnitsWritten units s) (rest : List Char) :
    readToken ('"' :: (s ++ ['"']) ++ rest) = some (.text (joinUnits units), rest) := by
  simp [Json.readToken, h.read]

theorem readToken_writeText (text : String) (rest : List Char) :
    readToken (writeText text ++ rest) = some (.text (some text), rest) := by
  obtain ⟨units, written, joined⟩ := unitsWritten_escaped text.toList
  have whole : joinUnits units = some text := by
    simp [joinUnits, joined []]
  rw [← whole]
  exact written.readToken rest

end VoiceBus.Json
