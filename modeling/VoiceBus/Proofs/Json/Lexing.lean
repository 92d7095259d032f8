import VoiceBus.Proofs.Json.Numeral
import VoiceBus.Proofs.Json.Text

/-!
# The tokens of a text

A text is read as its tokens one after another, each as it is written, with blanks anywhere between
them. The reader counts characters to know when to stop; as every token takes at least one, the
count never stops it early.
-/

namespace VoiceBus.Json

/-- The text holds these tokens, read one by one, and blanks around them. -/
inductive Lexes : List Char → List Token → Prop
  | done : Lexes [] []
  | blank {c : Char} {s : List Char} {tokens : List Token} :
    isBlank c = true → Lexes s tokens → Lexes (c :: s) tokens
  | token {s rest : List Char} {token : Token} {tokens : List Token} :
    readToken s = some (token, rest) → Lexes rest tokens → Lexes s (token :: tokens)

variable {s rest : List Char}

/-! ## How tokens are written -/

/-- How a token is written. Text is whatever its units name, if they name any characters. -/
inductive Token.Written : Token → List Char → Prop
  | null : Written .null ['n', 'u', 'l', 'l']
  | true : Written (.bool true) ['t', 'r', 'u', 'e']
  | false : Written (.bool false) ['f', 'a', 'l', 's', 'e']
  | number {number : Number} {s : List Char} : number.Written s → Written (.number number) s
  | text {text : Text} {units : List TextUnit} {s : List Char} :
    UnitsWritten units s → (∀ named : String, text = some named ↔ Joins units named.toList) →
    Written (.text text) ('"' :: (s ++ ['"']))
  | comma : Written .comma [',']
  | colon : Written .colon [':']
  | openArray : Written .openArray ['[']
  | closeArray : Written .closeArray [']']
  | openObject : Written .openObject ['\x7b']
  | closeObject : Written .closeObject ['\x7d']

variable {token : Token}

theorem Token.Written.read (h : token.Written s)
    (apart : (∃ number, token = .number number) → Apart rest) :
    readToken (s ++ rest) = some (token, rest) := by
  cases h with
  | number written => exact written.read (apart ⟨_, rfl⟩)
  | @text text units _ written joins =>
    have joined : joinUnits units = text :=
      Option.ext fun _ => joinUnits_eq_some_iff.trans (joins _).symm
    rw [written.readToken, joined]
  | _ => rfl

theorem Token.Written.apart (h : token.Written s) (other : ∀ number, token ≠ .number number) :
    Apart (s ++ rest) := by
  cases h with
  | number written => exact absurd rfl (other _)
  | _ =>
    rintro _ ⟨⟩
    decide

theorem Token.Written.ne_nil (h : token.Written s) : s ≠ [] := by
  cases h with
  | number written =>
    cases written with
    | positive whole =>
      obtain ⟨d, more, rfl, -⟩ := whole.exists_cons
      exact List.cons_ne_nil _ _
    | negative => exact List.cons_ne_nil _ _
  | _ => exact List.cons_ne_nil _ _

theorem exists_written_of_readToken (h : readToken s = some (token, rest)) :
    ∃ written, token.Written written ∧ s = written ++ rest := by
  unfold readToken at h
  split at h
  · cases h
    exact ⟨_, .comma, rfl⟩
  · cases h
    exact ⟨_, .colon, rfl⟩
  · cases h
    exact ⟨_, .openArray, rfl⟩
  · cases h
    exact ⟨_, .closeArray, rfl⟩
  · cases h
    exact ⟨_, .openObject, rfl⟩
  · cases h
    exact ⟨_, .closeObject, rfl⟩
  · cases h
    exact ⟨_, .null, rfl⟩
  · cases h
    exact ⟨_, .true, rfl⟩
  · cases h
    exact ⟨_, .false, rfl⟩
  · obtain ⟨⟨units, more⟩, read, same⟩ := Option.map_eq_some_iff.1 h
    obtain ⟨rfl, rfl⟩ := Prod.mk.inj same
    obtain ⟨added, written, rfl, isWritten, rfl⟩ := unitsWritten_of_readUnits read
    exact ⟨_, .text isWritten fun _ => joinUnits_eq_some_iff, by simp⟩
  · obtain ⟨⟨number, more⟩, read, same⟩ := Option.map_eq_some_iff.1 h
    obtain ⟨rfl, rfl⟩ := Prod.mk.inj same
    obtain ⟨_, _, _, _, _, rfl, whole, fraction, exponent, rfl⟩ :=
      Number.exists_of_readMagnitude read
    exact ⟨_, .number (.negative whole fraction exponent), rfl⟩
  · obtain ⟨⟨number, more⟩, read, same⟩ := Option.map_eq_some_iff.1 h
    obtain ⟨rfl, rfl⟩ := Prod.mk.inj same
    obtain ⟨_, _, _, _, _, rfl, whole, fraction, exponent, rfl⟩ :=
      Number.exists_of_readMagnitude read
    exact ⟨_, .number (.positive whole fraction exponent), rfl⟩

theorem length_lt_of_readToken (h : readToken s = some (token, rest)) :
    rest.length < s.length := by
  obtain ⟨written, isWritten, rfl⟩ := exists_written_of_readToken h
  have positive := List.length_pos_iff.2 isWritten.ne_nil
  rw [List.length_append]
  omega

theorem readToken_blank {c : Char} (blank : isBlank c = true) : readToken (c :: s) = none := by
  simp only [isBlank, Bool.or_eq_true, beq_iff_eq] at blank
  rcases blank with ((rfl | rfl) | rfl) | rfl <;> rfl

/-! ## All tokens -/

theorem readTokens_of_lexes {tokens : List Token} (lexes : Lexes s tokens) {count : Nat}
    (enough : s.length ≤ count) (before : List Token) :
    readTokens before count s = some (before.reverse ++ tokens) := by
  induction lexes generalizing count before with
  | done =>
    rw [List.append_nil]
    cases count <;> rfl
  | @blank c s tokens blank _ ih =>
    have skip : readTokens before count (c :: s) = readTokens before count s := by
      unfold readTokens
      rw [List.dropWhile_cons_of_pos blank]
    rw [skip]
    apply ih
    exact Nat.le_of_succ_le enough
  | @token s rest token tokens read _ ih =>
    -- The token took a character, so a step is left for every character that is left.
    have shorter := length_lt_of_readToken read
    obtain ⟨c, more, rfl⟩ := List.exists_cons_of_length_pos (Nat.zero_lt_of_lt shorter)
    obtain ⟨count, rfl⟩ : ∃ less, count = less + 1 := ⟨count - 1, by omega⟩
    have sight : ¬ isBlank c = true := by
      intro blank
      rw [readToken_blank blank] at read
      cases read
    unfold readTokens
    rw [List.dropWhile_cons_of_neg sight]
    simp only [read]
    rw [ih (by omega), List.reverse_cons, List.append_assoc, List.singleton_append]

theorem tokens?_of_lexes {tokens : List Token} (lexes : Lexes s tokens) : tokens? s = some tokens :=
  readTokens_of_lexes lexes (Nat.le_refl _) []

end VoiceBus.Json
