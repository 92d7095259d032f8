import VoiceBus.Proofs.Json.Lexing
import VoiceBus.Proofs.Json.Spelling

/-!
# Every way to spell a value

A value is spelled by its tokens, each in any way it can be written, with blanks anywhere between
them. Nothing is asked of what stands behind a number: two numbers are never neighbours in a value,
so what follows one never goes on with it. Every spelling is read as its value, and nothing else is
read.
-/

namespace VoiceBus.Json

/-- The characters are these tokens as they are written, with blanks anywhere between them. -/
inductive Spells : List Char → List Token → Prop
  | nil : Spells [] []
  | blank {c : Char} {s : List Char} {tokens : List Token} :
    isBlank c = true → Spells s tokens → Spells (c :: s) tokens
  | token {token : Token} {s rest : List Char} {tokens : List Token} :
    token.Written s → Spells rest tokens → Spells (s ++ rest) (token :: tokens)

/-! ## Numbers are no neighbours -/

/-- No number stands behind a number. The flag says whether one stands in front. -/
def Separate : Bool → List Token → Prop
  | _, [] => True
  | behind, .number _ :: tokens => behind = false ∧ Separate true tokens
  | _, _ :: tokens => Separate false tokens

theorem Separate.weaken {tokens : List Token} (h : Separate true tokens) :
    Separate false tokens := by
  cases tokens with
  | nil => trivial
  | cons token tokens =>
    cases token
    case number => cases h.1
    all_goals exact h

theorem Separate.of_other {behind : Bool} {token : Token} {tokens : List Token}
    (h : Separate behind (token :: tokens)) (other : ∀ number, token ≠ .number number) :
    Separate false tokens := by
  cases token
  case number number => exact absurd rfl (other number)
  all_goals exact h

/-- In front of what may stand behind a number, the tokens of the value stand well. -/
def Value.Separated (value : Value) : Prop :=
  ∀ more, Separate true more → Separate false (value.tokens ++ more)

def ItemsSeparated (items : List Value) : Prop :=
  ∀ more, Separate false more →
    Separate true ((itemTokens items).flatMap (fun part => Token.comma :: part) ++
      Token.closeArray :: more)

def MembersSeparated (members : List (Text × Value)) : Prop :=
  ∀ more, Separate false more →
    Separate true ((memberTokens members).flatMap (fun part => Token.comma :: part) ++
      Token.closeObject :: more)

theorem ItemsSeparated.cons {item : Value} {rest : List Value} (first : item.Separated)
    (others : ItemsSeparated rest) : ItemsSeparated (item :: rest) := by
  intro more h
  simp only [itemTokens, List.flatMap_cons, List.cons_append, List.append_assoc]
  exact first _ (others more h)

theorem MembersSeparated.cons {key : Text} {value : Value} {rest : List (Text × Value)}
    (first : value.Separated) (others : MembersSeparated rest) :
    MembersSeparated ((key, value) :: rest) := by
  intro more h
  simp only [memberTokens, List.flatMap_cons, List.cons_append, List.append_assoc]
  exact first _ (others more h)

theorem ItemsSeparated.array {items : List Value} (separated : ItemsSeparated items) :
    (Value.array items).Separated := by
  intro more h
  have behind := separated more h.weaken
  cases items with
  | nil => exact behind
  | cons item rest =>
    simp only [itemTokens, List.flatMap_cons, List.cons_append, List.append_assoc] at behind
    simp only [Value.tokens, itemTokens, intercalate_cons, List.cons_append, List.append_assoc]
    exact behind

theorem MembersSeparated.object {members : List (Text × Value)}
    (separated : MembersSeparated members) : (Value.object members).Separated := by
  intro more h
  have behind := separated more h.weaken
  cases members with
  | nil => exact behind
  | cons member rest =>
    simp only [memberTokens, List.flatMap_cons, List.cons_append, List.append_assoc] at behind
    simp only [Value.tokens, memberTokens, intercalate_cons, List.cons_append, List.append_assoc]
    exact behind

theorem Value.separated (value : Value) : value.Separated := by
  refine Value.tokens.induct Value.Separated MembersSeparated ItemsSeparated ?null ?bool ?number
    ?text ?array ?object ?noItems ?items ?noMembers ?members value
  case null => exact fun _ h => h.weaken
  case bool => exact fun _ _ h => h.weaken
  case number => exact fun _ _ h => ⟨rfl, h⟩
  case text => exact fun _ _ h => h.weaken
  case array => exact fun _ separated => separated.array
  case object => exact fun _ separated => separated.object
  case noItems => exact fun _ h => h
  case items => exact fun _ _ first others => others.cons first
  case noMembers => exact fun _ h => h
  case members => exact fun _ _ _ first others => others.cons first

/-! ## Reading -/

variable {s rest : List Char} {tokens : List Token}

theorem lexes_of_spells (spelled : Spells s tokens) {behind : Bool}
    (separate : Separate behind tokens) :
    Lexes s tokens ∧ (behind = true → Apart s) := by
  induction spelled generalizing behind with
  | nil => exact ⟨.done, fun _ => apart_nil⟩
  | blank blank _ ih =>
    refine ⟨.blank blank (ih separate).1, fun _ => ?_⟩
    rintro _ ⟨⟩
    simp only [isBlank, Bool.or_eq_true, beq_iff_eq] at blank
    rcases blank with ((rfl | rfl) | rfl) | rfl <;> decide
  | @token token s rest tokens written _ ih =>
    -- only a number looks at what follows, and no number follows it
    by_cases number : ∃ number, token = .number number
    · obtain ⟨number, rfl⟩ := number
      obtain ⟨rfl, separate⟩ := separate
      obtain ⟨lexes, apart⟩ := ih separate
      exact ⟨.token (written.read fun _ => apart rfl) lexes, fun h => absurd h Bool.false_ne_true⟩
    · have other : ∀ n, token ≠ .number n := fun n same => number ⟨n, same⟩
      have lexes := (ih (separate.of_other other)).1
      exact ⟨.token (written.read fun found => absurd found number) lexes,
        fun _ => written.apart other⟩

theorem spells_of_dropWhile (spelled : Spells (s.dropWhile isBlank) tokens) : Spells s tokens := by
  induction s with
  | nil => exact spelled
  | cons c s ih =>
    by_cases blank : isBlank c = true
    · rw [List.dropWhile_cons_of_pos blank] at spelled
      exact .blank blank (ih spelled)
    · rwa [List.dropWhile_cons_of_neg blank] at spelled

theorem spells_of_readTokens {count : Nat} {before : List Token}
    (h : readTokens before count s = some tokens) :
    ∃ read, tokens = before.reverse ++ read ∧ Spells s read := by
  fun_induction readTokens before count s with
  | case1 _ _ _ blanks =>
    cases h
    exact ⟨[], (List.append_nil _).symm, spells_of_dropWhile (blanks ▸ .nil)⟩
  | case2 => cases h
  | case3 _ _ _ token rest _ first ih =>
    obtain ⟨written, isWritten, whole⟩ := exists_written_of_readToken first
    obtain ⟨read, rfl, spelled⟩ := ih h
    refine ⟨token :: read, by simp, spells_of_dropWhile ?_⟩
    rw [whole]
    exact .token isWritten spelled
  | case4 => cases h

theorem spells_of_tokens? (h : tokens? s = some tokens) : Spells s tokens := by
  obtain ⟨read, rfl, spelled⟩ := spells_of_readTokens h
  exact spelled

/-- What is read as a value is just what spells it. -/
theorem Value.read?_eq_some_iff {text : String} {value : Value} :
    read? text = some value ↔ Spells text.toList value.tokens := by
  constructor
  · intro read
    obtain ⟨tokens, lexed, spelled⟩ := Option.bind_eq_some_iff.1 read
    rw [← ofTokens?_eq_some_iff.1 spelled]
    exact spells_of_tokens? lexed
  · intro spelled
    have separate : Separate false value.tokens := by
      simpa using value.separated [] trivial
    rw [read?, tokens?_of_lexes (lexes_of_spells spelled separate).1, Option.bind_eq_bind,
      Option.bind_some, ofTokens?_tokens]

end VoiceBus.Json
