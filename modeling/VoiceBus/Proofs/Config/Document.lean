import Mathlib.Data.List.Forall2
import VoiceBus.Config.Writer
import VoiceBus.Proofs.Config.Members
import VoiceBus.Proofs.Config.Validation
import VoiceBus.Proofs.Json.Lexing
import VoiceBus.Proofs.Json.Spelling
import VoiceBus.Proofs.Json.Text
import VoiceBus.Proofs.Numeric.Plain

/-!
# Configurations saved and loaded

A configuration is written as an object of its fields. Read back, the text is the tokens of this
object, the object gives every field, and what passed before passes again.
-/

namespace VoiceBus

open Json

namespace Json

/-! ## Text that is read as a value -/

/-- The text is read as the tokens of the value, whatever comes next. -/
def Writes (text : List Char) (value : Value) : Prop :=
  ∀ rest later, Apart rest → Lexes rest later → Lexes (text ++ rest) (value.tokens ++ later)

/-- The text is read as a key, a colon and the tokens of the value. -/
def WritesMember (text : List Char) (member : Text × Value) : Prop :=
  ∀ rest later, Apart rest → Lexes rest later →
    Lexes (text ++ rest) (.text member.1 :: .colon :: member.2.tokens ++ later)

theorem apart_cons {c : Char} {rest : List Char} (h : c = ',' ∨ c = '\x7d') :
    Apart (c :: rest) := by
  rintro _ ⟨⟩
  rcases h with rfl | rfl <;> decide

theorem writes_text (text : String) : Writes (writeText text) (.text (some text)) :=
  fun _ _ _ lexed => .token (readToken_writeText text _) lexed

theorem writes_nat (n : Nat) : Writes (Config.writeNat n) (.number (.plain n)) :=
  fun _ _ apart lexed => .token (readToken_plain apart) lexed

theorem writes_pointed (n : Nat) :
    Writes (Nat.toDigits 10 n ++ ['.', '0']) (.number (.pointed n)) :=
  fun _ _ apart lexed => .token (readToken_pointed apart) lexed

theorem writesMember {key : String} {text : List Char} {value : Value}
    (plain : key.toList.flatMap escapeChar = key.toList) (writes : Writes text value) :
    WritesMember (Config.writeMember key text) (some key, value) := by
  intro rest later apart lexed
  have quoted : Config.writeMember key text ++ rest = writeText key ++ (':' :: (text ++ rest)) := by
    simp [Config.writeMember, writeText, plain]
  rw [quoted]
  apply Lexes.token (readToken_writeText key _)
  apply Lexes.token rfl
  exact writes rest later apart lexed

theorem lexes_members {texts : List (List Char)} {members : List (Text × Value)}
    (written : List.Forall₂ WritesMember texts members) {rest : List Char} {later : List Token}
    (lexed : Lexes rest later) :
    Lexes (texts.flatMap (fun text => ',' :: text) ++ '\x7d' :: rest)
        ((memberTokens members).flatMap (fun part => Token.comma :: part) ++
          .closeObject :: later) ∧
      Apart (texts.flatMap (fun text => ',' :: text) ++ '\x7d' :: rest) := by
  induction written with
  | nil => exact ⟨.token rfl lexed, apart_cons (.inr rfl)⟩
  | cons first _ ih =>
    simp only [List.flatMap_cons, memberTokens, List.cons_append, List.append_assoc]
    exact ⟨.token rfl (first _ _ ih.2 ih.1), apart_cons (.inl rfl)⟩

theorem writes_object {texts : List (List Char)} {members : List (Text × Value)}
    (written : List.Forall₂ WritesMember texts members) :
    Writes (Config.writeObject texts) (.object members) := by
  intro rest later _ lexed
  cases written with
  | nil => exact .token rfl (.token rfl lexed)
  | cons first others =>
    obtain ⟨more, apart⟩ := lexes_members others lexed
    simp only [Config.writeObject, Value.tokens, memberTokens, intercalate_cons, List.cons_append,
      List.nil_append, List.append_assoc]
    exact .token rfl (first _ _ apart more)

theorem Value.isSpan_pointed {seconds : UInt64} (short : seconds.toNat ≤ 2 ^ 49) :
    (Value.number (.pointed seconds.toNat)).IsSpan (.ofSeconds seconds) :=
  .seconds (Number.magnitude?_pointed (by omega)) nofun Duration.total_ofSeconds

end Json

namespace Config

/-! ## The object of a configuration -/

def audioDocument (audio : AudioParams) : Value :=
  .object [
    (some "sample_rate", .number (.plain audio.sampleRate.toNat)),
    (some "channels", .number (.plain audio.channels.toNat)),
    (some "format", .text (some audio.format.name))]

/-- A configuration as a value, its expiry in whole seconds. -/
def document (config : Config) : Value :=
  .object [
    (some "audio", audioDocument config.audio),
    (some "topic", .text (some config.topic)),
    (some "max_fragment_size", .number (.plain config.maxFragment)),
    (some "fragment_expiry", .number (.pointed config.expiry.seconds.toNat))]

variable {config : Config}

theorem shortestText_expiry (whole : config.expiry.nanoseconds = 0)
    (short : config.expiry.seconds.toNat ≤ 2 ^ 49) :
    Numeric.shortestText secondsStyle config.expiry.toBinary64 =
      Nat.toDigits 10 config.expiry.seconds.toNat ++ ['.', '0'] := by
  have span : config.expiry = .ofSeconds config.expiry.seconds := Duration.eq_ofSeconds whole
  rw [span, Duration.toBinary64_ofSeconds (by omega)]
  exact Numeric.shortestText_natCast (by decide) (by decide) short

theorem writes_document (whole : config.expiry.nanoseconds = 0)
    (short : config.expiry.seconds.toNat ≤ 2 ^ 49) : Writes config.writeChars config.document := by
  have audio : Writes (writeAudio config.audio) (audioDocument config.audio) := by
    apply writes_object
    exact .cons (writesMember (by decide) (writes_nat _))
      (.cons (writesMember (by decide) (writes_nat _))
        (.cons (writesMember (by decide) (writes_text _)) .nil))
  unfold writeChars
  rw [shortestText_expiry whole short]
  apply writes_object
  exact .cons (writesMember (by decide) audio)
    (.cons (writesMember (by decide) (writes_text _))
      (.cons (writesMember (by decide) (writes_nat _))
        (.cons (writesMember (by decide) (writes_pointed _)) .nil)))

theorem ofValue?_document (fits : config.maxFragment < UInt64.size)
    (short : config.expiry.seconds.toNat ≤ 2 ^ 49) :
    Draft.ofValue? config.document = some
      ⟨⟨some config.audio.sampleRate, some config.audio.channels, some config.audio.format⟩,
        some config.topic, some config.maxFragment, some (.ofSeconds config.expiry.seconds)⟩ := by
  have audio : AudioDraft.GivenBy
      ⟨some config.audio.sampleRate, some config.audio.channels, some config.audio.format⟩
      [(some "sample_rate", .number (.plain config.audio.sampleRate.toNat)),
        (some "channels", .number (.plain config.audio.channels.toNat)),
        (some "format", .text (some config.audio.format.name))] :=
    ⟨by simp, .once (by rfl) rfl, .once (by rfl) rfl, .once (by rfl) (.name _)⟩
  exact Draft.ofValue?_of_givenBy ⟨by simp, ⟨some _, rfl, .once (by rfl) ⟨_, rfl, audio⟩⟩,
    .once (by rfl) rfl, .once (by rfl) ⟨rfl, fits⟩, .once (by rfl) (Value.isSpan_pointed short)⟩

theorem read?_write (whole : config.expiry.nanoseconds = 0)
    (short : config.expiry.seconds.toNat ≤ 2 ^ 49) :
    Value.read? config.write = some config.document := by
  have lexed : Lexes config.writeChars config.document.tokens := by
    simpa using writes_document whole short [] [] apart_nil .done
  rw [Value.read?, write, String.toList_ofList, tokens?_of_lexes lexed, Option.bind_eq_bind,
    Option.bind_some, Value.ofTokens?_tokens]

/-- A configuration that passes, with an expiry of whole seconds up to `2 ^ 49`, is read back. -/
theorem read_write (passes : config.validate = .ok ()) (whole : config.expiry.nanoseconds = 0)
    (short : config.expiry.seconds.toNat ≤ 2 ^ 49) :
    Value.read? config.write = some config.document ∧ read config.write = .ok config := by
  have value := read?_write whole short
  have fits : config.maxFragment < UInt64.size :=
    Nat.lt_of_le_of_lt (validate_eq_ok_iff.1 passes).2.2 (by decide)
  refine ⟨value, ?_⟩
  rw [read, value, Option.bind_some, ofValue?_document fits short, ← Duration.eq_ofSeconds whole]
  exact checked_eq_ok_iff.2 ⟨passes, rfl⟩

/-- A topic of quotes, backslashes, control characters and others, and every number at its end. -/
def awkward : Config where
  audio := { sampleRate := 65535, channels := 255, format := .g711u }
  topic := "\"\\\x08\x0c\n\r\t\x00\x1f/\x7b:,\x7d \u00e9\u2028\u4e2d/A0001/[0.0]/client"
  maxFragment := 65535
  expiry := .ofSeconds 562949953421312

theorem awkward_read_write :
    awkward.validate = .ok () ∧ awkward.expiry.nanoseconds = 0 ∧
      awkward.expiry.seconds.toNat ≤ 2 ^ 49 ∧
      Value.read? awkward.write = some awkward.document ∧ read awkward.write = .ok awkward := by
  have passes : awkward.validate = .ok () := by decide +kernel
  exact ⟨passes, rfl, by decide, read_write passes rfl (by decide)⟩

end Config

end VoiceBus
