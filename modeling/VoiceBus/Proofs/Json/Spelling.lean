import VoiceBus.Json.Value

/-!
# The tokens of a value

A value is spelled by its tokens, with commas between the parts of an array or object. Read one by
one inside whatever is open, they bring the reader to the end of just this value, and no other
tokens do.
-/

namespace VoiceBus.Json

mutual

/-- The tokens that spell a value. -/
def Value.tokens : Value → List Token
  | .null => [.null]
  | .bool value => [.bool value]
  | .number value => [.number value]
  | .text value => [.text value]
  | .array items => .openArray :: [.comma].intercalate (itemTokens items) ++ [.closeArray]
  | .object members => .openObject :: [.comma].intercalate (memberTokens members) ++ [.closeObject]

def itemTokens : List Value → List (List Token)
  | [] => []
  | item :: rest => item.tokens :: itemTokens rest

def memberTokens : List (Text × Value) → List (List Token)
  | [] => []
  | (key, value) :: rest => (.text key :: .colon :: value.tokens) :: memberTokens rest

end

theorem intercalate_cons {α : Type} (separator : α) (first : List α) (rest : List (List α)) :
    [separator].intercalate (first :: rest) =
      first ++ rest.flatMap fun part => separator :: part := by
  induction rest generalizing first with
  | nil => simp [List.intercalate]
  | cons next rest ih =>
    have split : [separator].intercalate (first :: next :: rest) =
        first ++ separator :: [separator].intercalate (next :: rest) := by
      simp [List.intercalate]
    rw [split, ih, List.flatMap_cons, List.cons_append]

/-! ## Reading them -/

namespace Place

/-- Takes tokens one after another. -/
def run (place : Place) (tokens : List Token) : Option Place := tokens.foldlM step place

theorem run_cons {place next : Place} {token : Token} (tokens : List Token)
    (h : place.step token = some next) : place.run (token :: tokens) = next.run tokens := by
  rw [run, List.foldlM_cons, h]
  rfl

theorem run_append {place next : Place} {tokens : List Token} (more : List Token)
    (h : place.run tokens = some next) : place.run (tokens ++ more) = next.run more := by
  rw [run, List.foldlM_append]
  unfold run at h
  rw [h]
  rfl

end Place

/-- The tokens of the value are read as this value, whatever is open. -/
def Value.Spelled (value : Value) : Prop :=
  ∀ enclosing, (Place.beforeValue enclosing).run value.tokens = some (Place.finish value enclosing)

/-- Behind other items, these items and the end of their array are read as such. -/
def ItemsSpelled (items : List Value) : Prop :=
  ∀ before enclosing,
    (Place.afterItem before enclosing).run
      ((itemTokens items).flatMap (fun part => Token.comma :: part) ++ [Token.closeArray]) =
    some (Place.finish (.array (before.reverse ++ items)) enclosing)

/-- Behind other members, these members and the end of their object are read as such. -/
def MembersSpelled (members : List (Text × Value)) : Prop :=
  ∀ before enclosing,
    (Place.afterMember before enclosing).run
      ((memberTokens members).flatMap (fun part => Token.comma :: part) ++ [Token.closeObject]) =
    some (Place.finish (.object (before.reverse ++ members)) enclosing)

theorem ItemsSpelled.nil : ItemsSpelled [] := by
  intro before enclosing
  rw [List.append_nil]
  rfl

theorem ItemsSpelled.cons {item : Value} {rest : List Value} (first : item.Spelled)
    (others : ItemsSpelled rest) : ItemsSpelled (item :: rest) := by
  intro before enclosing
  simp only [itemTokens, List.flatMap_cons, List.cons_append, List.append_assoc]
  rw [Place.run_cons _ rfl, Place.run_append _ (first _), Place.finish, others,
    List.reverse_cons, List.append_assoc, List.singleton_append]

theorem MembersSpelled.nil : MembersSpelled [] := by
  intro before enclosing
  rw [List.append_nil]
  rfl

theorem MembersSpelled.cons {key : Text} {value : Value} {rest : List (Text × Value)}
    (first : value.Spelled) (others : MembersSpelled rest) :
    MembersSpelled ((key, value) :: rest) := by
  intro before enclosing
  simp only [memberTokens, List.flatMap_cons, List.cons_append, List.append_assoc]
  rw [Place.run_cons _ rfl, Place.run_cons _ rfl, Place.run_cons _ rfl,
    Place.run_append _ (first _), Place.finish, others, List.reverse_cons, List.append_assoc,
    List.singleton_append]

theorem run_arrayStart (value : Value) (more : List Token) (enclosing : List Open) :
    (Place.arrayStart enclosing).run (value.tokens ++ more) =
      (Place.beforeValue (.array [] :: enclosing)).run (value.tokens ++ more) := by
  cases value <;> rfl

theorem ItemsSpelled.array {items : List Value} (spelled : ItemsSpelled items) :
    (Value.array items).Spelled := by
  intro enclosing
  rw [Value.tokens, List.cons_append, Place.run_cons _ rfl]
  cases items with
  | nil => rfl
  | cons item rest =>
    -- Behind a comma after no items the reader would stand where it stands now.
    have behind := spelled [] enclosing
    simp only [itemTokens, List.flatMap_cons, List.cons_append, List.append_assoc] at behind
    rw [itemTokens, intercalate_cons, List.append_assoc, run_arrayStart]
    exact behind

theorem MembersSpelled.object {members : List (Text × Value)} (spelled : MembersSpelled members) :
    (Value.object members).Spelled := by
  intro enclosing
  rw [Value.tokens, List.cons_append, Place.run_cons _ rfl]
  cases members with
  | nil => rfl
  | cons member rest =>
    have behind := spelled [] enclosing
    simp only [memberTokens, List.flatMap_cons, List.cons_append, List.append_assoc] at behind
    simp only [memberTokens, intercalate_cons, List.cons_append, List.append_assoc]
    exact behind

theorem Value.spelled (value : Value) : value.Spelled := by
  refine Value.tokens.induct Value.Spelled MembersSpelled ItemsSpelled ?null ?bool ?number ?text
    ?array ?object ?noItems ?items ?noMembers ?members value
  case null => exact fun _ => rfl
  case bool => exact fun _ _ => rfl
  case number => exact fun _ _ => rfl
  case text => exact fun _ _ => rfl
  case array => exact fun _ spelled => spelled.array
  case object => exact fun _ spelled => spelled.object
  case noItems => exact ItemsSpelled.nil
  case items => exact fun _ _ first others => others.cons first
  case noMembers => exact MembersSpelled.nil
  case members => exact fun _ _ _ first others => others.cons first

theorem Value.ofTokens?_tokens (value : Value) : ofTokens? value.tokens = some value := by
  have read := value.spelled []
  rw [Place.run] at read
  rw [ofTokens?, read]
  rfl

/-! ## What has been read -/

/-- Parts that have been read, each with the comma behind it. -/
def closedBy (parts : List (List Token)) : List Token := parts.flatMap fun part => part ++ [.comma]

/-- The tokens of what is open, up to where the next value starts. -/
def opened : List Open → List Token
  | [] => []
  | .array items :: enclosing =>
    opened enclosing ++ .openArray :: closedBy (itemTokens items.reverse)
  | .object members key :: enclosing =>
    opened enclosing ++ .openObject :: closedBy (memberTokens members.reverse) ++
      [.text key, .colon]

/-- The tokens that have been read when reading stands at a place. -/
inductive Place.Behind : Place → List Token → Prop
  | beforeValue (enclosing : List Open) : Behind (.beforeValue enclosing) (opened enclosing)
  | arrayStart (enclosing : List Open) :
    Behind (.arrayStart enclosing) (opened enclosing ++ [.openArray])
  | afterItem (items : List Value) (value : Value) (enclosing : List Open) :
    Behind (.afterItem (value :: items) enclosing)
      (opened (.array items :: enclosing) ++ value.tokens)
  | objectStart (enclosing : List Open) :
    Behind (.objectStart enclosing) (opened enclosing ++ [.openObject])
  | beforeKey (members : List (Text × Value)) (enclosing : List Open) :
    Behind (.beforeKey members enclosing)
      (opened enclosing ++ .openObject :: closedBy (memberTokens members.reverse))
  | beforeColon (members : List (Text × Value)) (key : Text) (enclosing : List Open) :
    Behind (.beforeColon members key enclosing)
      (opened enclosing ++ .openObject :: closedBy (memberTokens members.reverse) ++ [.text key])
  | afterMember (members : List (Text × Value)) (key : Text) (value : Value)
    (enclosing : List Open) :
    Behind (.afterMember ((key, value) :: members) enclosing)
      (opened (.object members key :: enclosing) ++ value.tokens)
  | done (value : Value) : Behind (.done value) value.tokens

theorem itemTokens_eq_map (items : List Value) : itemTokens items = items.map Value.tokens := by
  induction items with
  | nil => rfl
  | cons item rest ih => rw [itemTokens, ih, List.map_cons]

theorem memberTokens_eq_map (members : List (Text × Value)) :
    memberTokens members =
      members.map fun member => .text member.1 :: .colon :: member.2.tokens := by
  induction members with
  | nil => rfl
  | cons member rest ih => rw [memberTokens, ih, List.map_cons]

theorem intercalate_concat (parts : List (List Token)) (last : List Token) :
    [.comma].intercalate (parts ++ [last]) = closedBy parts ++ last := by
  induction parts with
  | nil => simp [closedBy, List.intercalate]
  | cons first rest ih =>
    have split : [Token.comma].intercalate (first :: (rest ++ [last])) =
        first ++ .comma :: [Token.comma].intercalate (rest ++ [last]) := by
      obtain ⟨next, more, parts⟩ := List.exists_cons_of_ne_nil (List.concat_ne_nil last rest)
      rw [parts]
      simp [List.intercalate]
    rw [List.cons_append, split, ih]
    simp [closedBy]

/-! ### Where an array or object goes on and where it ends -/

variable {items : List Value} {members : List (Text × Value)} {key : Text} {value : Value}
  {enclosing : List Open}

theorem opened_item : opened (.array (value :: items) :: enclosing) =
    opened (.array items :: enclosing) ++ value.tokens ++ [.comma] := by
  simp [opened, closedBy, itemTokens_eq_map]

theorem opened_member :
    opened enclosing ++ .openObject :: closedBy (memberTokens ((key, value) :: members).reverse) =
      opened (.object members key :: enclosing) ++ value.tokens ++ [.comma] := by
  simp [opened, closedBy, memberTokens_eq_map]

theorem tokens_array : opened enclosing ++ (Value.array (value :: items).reverse).tokens =
    opened (.array items :: enclosing) ++ value.tokens ++ [.closeArray] := by
  simp [Value.tokens, opened, itemTokens_eq_map, intercalate_concat]

theorem tokens_object :
    opened enclosing ++ (Value.object ((key, value) :: members).reverse).tokens =
      opened (.object members key :: enclosing) ++ value.tokens ++ [.closeObject] := by
  simp [Value.tokens, opened, memberTokens_eq_map, intercalate_concat]

namespace Place

variable {place next : Place} {token : Token} {tokens : List Token}

theorem behind_finish (value : Value) (enclosing : List Open) :
    Behind (finish value enclosing) (opened enclosing ++ value.tokens) := by
  cases enclosing with
  | nil => exact .done value
  | cons innermost enclosing =>
    cases innermost with
    | array items => exact .afterItem items value enclosing
    | object members key => exact .afterMember members key value enclosing

theorem behind_start {enclosing : List Open} (h : start enclosing token = some next) :
    Behind next (opened enclosing ++ [token]) := by
  unfold start at h
  split at h
  all_goals cases h
  · exact behind_finish .null enclosing
  · exact behind_finish (.bool _) enclosing
  · exact behind_finish (.number _) enclosing
  · exact behind_finish (.text _) enclosing
  · exact .arrayStart enclosing
  · exact .objectStart enclosing

theorem Behind.step (behind : Behind place tokens) (h : place.step token = some next) :
    Behind next (tokens ++ [token]) := by
  cases behind with
  | beforeValue enclosing => exact behind_start h
  | arrayStart enclosing =>
    by_cases closed : token = .closeArray
    · subst closed
      cases h
      rw [List.append_assoc]
      exact behind_finish (.array []) enclosing
    · have started : start (.array [] :: enclosing) token = some next := by
        cases token
        case closeArray => exact absurd rfl closed
        all_goals exact h
      exact behind_start started
  | afterItem items value enclosing =>
    cases token
    case comma =>
      cases h
      rw [← opened_item]
      exact .beforeValue _
    case closeArray =>
      cases h
      rw [← tokens_array]
      exact behind_finish _ enclosing
    all_goals cases h
  | objectStart enclosing =>
    cases token
    case closeObject =>
      cases h
      rw [List.append_assoc]
      exact behind_finish (.object []) enclosing
    case text key =>
      cases h
      exact .beforeColon [] key enclosing
    all_goals cases h
  | beforeKey members enclosing =>
    cases token
    case text key =>
      cases h
      exact .beforeColon members key enclosing
    all_goals cases h
  | beforeColon members key enclosing =>
    cases token
    case colon =>
      cases h
      rw [List.append_assoc]
      exact .beforeValue (.object members key :: enclosing)
    all_goals cases h
  | afterMember members key value enclosing =>
    cases token
    case comma =>
      cases h
      rw [← opened_member]
      exact .beforeKey _ enclosing
    case closeObject =>
      cases h
      rw [← tokens_object]
      exact behind_finish _ enclosing
    all_goals cases h
  | done value => cases token <;> cases h

theorem Behind.run (behind : Behind place tokens) {more : List Token}
    (h : place.run more = some next) : Behind next (tokens ++ more) := by
  induction more generalizing place tokens with
  | nil =>
    cases h
    rwa [List.append_nil]
  | cons token more ih =>
    rw [Place.run, List.foldlM_cons, Option.bind_eq_bind, Option.bind_eq_some_iff] at h
    obtain ⟨middle, first, rest⟩ := h
    rw [← List.singleton_append, ← List.append_assoc]
    exact ih (behind.step first) rest

end Place

theorem Value.ofTokens?_eq_some_iff {tokens : List Token} {value : Value} :
    ofTokens? tokens = some value ↔ tokens = value.tokens := by
  constructor
  · intro read
    unfold ofTokens? at read
    split at read
    · next run =>
      cases read
      have behind := Place.Behind.run (.beforeValue []) run
      rw [opened, List.nil_append] at behind
      cases behind
      rfl
    · cases read
  · rintro rfl
    exact ofTokens?_tokens value

end VoiceBus.Json
