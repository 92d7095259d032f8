import VoiceBus.Json.Token

/-! # JSON values

Tokens are taken one at a time. What has been opened and not yet closed is kept beside the place
where reading stands, so nesting has no limit.
-/

namespace VoiceBus.Json

/-- A JSON value. Members keep their order and may repeat a key. -/
inductive Value
  | null
  | bool (value : Bool)
  | number (value : Number)
  | text (value : Text)
  | array (items : List Value)
  | object (members : List (Text × Value))

/-- An array or object whose end has not been read. What it holds so far comes last first. -/
inductive Open
  | array (items : List Value)
  /-- The value of `key` is being read. -/
  | object (members : List (Text × Value)) (key : Text)

/-- Where reading stands; `enclosing` are the arrays and objects around it, the innermost first. -/
inductive Place
  /-- A value must follow. -/
  | beforeValue (enclosing : List Open)
  /-- An array has been opened: a value or its end must follow. -/
  | arrayStart (enclosing : List Open)
  /-- An item has ended: a comma or the end of the array must follow. -/
  | afterItem (items : List Value) (enclosing : List Open)
  /-- An object has been opened: a key or its end must follow. -/
  | objectStart (enclosing : List Open)
  /-- A comma has been read in an object: a key must follow. -/
  | beforeKey (members : List (Text × Value)) (enclosing : List Open)
  /-- A key has been read: a colon must follow. -/
  | beforeColon (members : List (Text × Value)) (key : Text) (enclosing : List Open)
  /-- A member has ended: a comma or the end of the object must follow. -/
  | afterMember (members : List (Text × Value)) (enclosing : List Open)
  /-- The value is complete: nothing may follow. -/
  | done (value : Value)

namespace Place

/-- A value has ended inside `enclosing`. -/
def finish (value : Value) : List Open → Place
  | [] => done value
  | .array items :: enclosing => afterItem (value :: items) enclosing
  | .object members key :: enclosing => afterMember ((key, value) :: members) enclosing

/-- A token where a value must start. -/
def start (enclosing : List Open) : Token → Option Place
  | .null => some (finish .null enclosing)
  | .bool value => some (finish (.bool value) enclosing)
  | .number value => some (finish (.number value) enclosing)
  | .text value => some (finish (.text value) enclosing)
  | .openArray => some (arrayStart enclosing)
  | .openObject => some (objectStart enclosing)
  | _ => none

/-- Takes one token. -/
def step : Place → Token → Option Place
  | beforeValue enclosing, token => start enclosing token
  | arrayStart enclosing, .closeArray => some (finish (.array []) enclosing)
  | arrayStart enclosing, token => start (.array [] :: enclosing) token
  | afterItem items enclosing, .comma => some (beforeValue (.array items :: enclosing))
  | afterItem items enclosing, .closeArray => some (finish (.array items.reverse) enclosing)
  | objectStart enclosing, .closeObject => some (finish (.object []) enclosing)
  | objectStart enclosing, .text key => some (beforeColon [] key enclosing)
  | beforeKey members enclosing, .text key => some (beforeColon members key enclosing)
  | beforeColon members key enclosing, .colon =>
    some (beforeValue (.object members key :: enclosing))
  | afterMember members enclosing, .comma => some (beforeKey members enclosing)
  | afterMember members enclosing, .closeObject =>
    some (finish (.object members.reverse) enclosing)
  | _, _ => none

end Place

/-- The value that tokens spell. -/
def Value.ofTokens? (tokens : List Token) : Option Value :=
  match tokens.foldlM Place.step (.beforeValue []) with
  | some (.done value) => some value
  | _ => none

def Value.read? (text : String) : Option Value := do
  Value.ofTokens? (← tokens? text.toList)

end VoiceBus.Json
