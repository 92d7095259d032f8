import VoiceBus.Config.Basic
import VoiceBus.Json.Value

/-! # Reading a configuration document

The document is an object whose known keys are fields, or an array of the fields in order. Fields
that are left out keep their defaults, unknown keys are ignored, and a known key may stand once.
-/

namespace VoiceBus

namespace Json.Value

/-! ## Fields of a value -/

/-- The members of an object, if every key has a text. -/
def namedMembers? (members : List (Text × Value)) : Option (List (String × Value)) :=
  members.mapM fun (key, value) => key.map (·, value)

/-- The value under a key: inside, `none` when the key is missing. A repeated key is an error. -/
def member? (members : List (String × Value)) (key : String) : Option (Option Value) :=
  match members.filter (·.1 = key) with
  | [] => some none
  | [member] => some (some member.2)
  | _ => none

/-- The values of the named fields, whichever of the two forms the value has. -/
def fields? (names : List String) : Value → Option (List (Option Value))
  | object members => do
    let members ← namedMembers? members
    names.mapM (member? members)
  | array items =>
    if items.length ≤ names.length then
      some (items.map some ++ List.replicate (names.length - items.length) none)
    else none
  | _ => none

/-! ## Plain values -/

/-- A whole number below `bound`, written in digits only. -/
def natBelow? (bound : Nat) : Value → Option Nat
  | number literal => literal.toNat?.filter (· < bound)
  | _ => none

def string? : Value → Option String
  | text value => value
  | _ => none

/-- A format by its name, alone or as the only key of an object whose value is null. -/
def audioFormat? : Value → Option AudioFormat
  | text (some name) => AudioFormat.ofName? name
  | object [(some name, null)] => AudioFormat.ofName? name
  | _ => none

/-- A number of seconds that is not negative. A negative zero counts as zero. -/
def duration? : Value → Option Duration
  | number literal => do
    let magnitude ← literal.magnitude?
    if literal.negative && magnitude != 0 then none else Duration.ofBinary64? magnitude
  | _ => none

/-- Reads a field that may be missing. -/
def optional {α : Type} (read : Value → Option α) : Option Value → Option (Option α)
  | none => some none
  | some value => (read value).map some

end Json.Value

open Json (Value)

def AudioDraft.ofValue? (value : Value) : Option AudioDraft := do
  match ← value.fields? ["sample_rate", "channels", "format"] with
  | [sampleRate, channels, format] =>
    return {
      sampleRate := (← Value.optional (·.natBelow? UInt16.size) sampleRate).map UInt16.ofNat
      channels := (← Value.optional (·.natBelow? UInt8.size) channels).map UInt8.ofNat
      format := ← Value.optional (·.audioFormat?) format }
  | _ => none

def Draft.ofValue? (value : Value) : Option Draft := do
  match ← value.fields? ["audio", "topic", "max_fragment_size", "fragment_expiry"] with
  | [audio, topic, maxFragment, expiry] =>
    return {
      audio := (← Value.optional AudioDraft.ofValue? audio).getD {}
      topic := ← Value.optional (·.string?) topic
      maxFragment := ← Value.optional (·.natBelow? UInt64.size) maxFragment
      expiry := ← Value.optional (·.duration?) expiry }
  | _ => none

/-- Reads a document and checks what it says. -/
def Config.read (text : String) : Except ConfigError Config :=
  match (Value.read? text).bind Draft.ofValue? with
  | some draft => draft.build
  | none => .error .malformed

end VoiceBus
