import VoiceBus.Proofs.Config.Members
import VoiceBus.Proofs.Json.Grammar

/-!
# Documents that give some fields

A document may leave fields out, at both levels, and may hold members that are no fields. However it
is spelled, it is read as the defaults with the given fields put in their places, and the result is
checked: first the topic, then the fragment size. A field that is given twice spoils the document.
-/

namespace VoiceBus

open Json

/-- The defaults, with the given fields in their places. -/
def Draft.filled (draft : Draft) : Config where
  audio := {
    sampleRate := draft.audio.sampleRate.getD 16000
    channels := draft.audio.channels.getD 1
    format := draft.audio.format.getD .opus }
  topic := draft.topic.getD "test/T0001/A0001/voice/server"
  maxFragment := draft.maxFragment.getD 1024
  expiry := draft.expiry.getD (.ofSeconds 120)

namespace Config

variable {text : String} {members : List (Text × Value)}

theorem read_of_spells (spelled : Spells text.toList (Value.object members).tokens) :
    read text = ((Draft.ofValue? (.object members)).map Draft.build).getD (.error .malformed) := by
  rw [read, Value.read?_eq_some_iff.2 spelled, Option.bind_some]
  cases Draft.ofValue? (.object members) <;> rfl

theorem checked_eq (config : Config) :
    config.checked = match Topic.parse config.topic with
      | .error error => .error (.invalidTopic error)
      | .ok _ =>
        if 0 < config.maxFragment ∧ config.maxFragment ≤ 65535 then .ok config
        else .error (.invalidFragmentSize config.maxFragment) := by
  rw [checked, validate, parsedTopic]
  cases Topic.parse config.topic with
  | error error => rfl
  | ok topic =>
    change Except.map _ (if Frame.IsPieceSize config.maxFragment then .ok () else _) = _
    by_cases fits : Frame.IsPieceSize config.maxFragment
    · rw [if_pos fits]
      exact (if_pos fits).symm
    · rw [if_neg fits]
      exact (if_neg fits).symm

/-- However a document is spelled, its fields replace their defaults and nothing else does. -/
theorem read_partial (spelled : Spells text.toList (Value.object members).tokens) :
    (∀ draft : Draft, draft.GivenBy members →
      (∀ error, Topic.parse draft.filled.topic = .error error →
        read text = .error (.invalidTopic error)) ∧
      ∀ topic, Topic.parse draft.filled.topic = .ok topic →
        read text =
          if 0 < draft.filled.maxFragment ∧ draft.filled.maxFragment ≤ 65535 then .ok draft.filled
          else .error (.invalidFragmentSize draft.filled.maxFragment)) ∧
    (∀ key ∈ ["audio", "topic", "max_fragment_size", "fragment_expiry"],
      2 ≤ (under key members).length → read text = .error .malformed) ∧
    ∀ audio, .object audio ∈ under "audio" members →
      ∀ key ∈ ["sample_rate", "channels", "format"],
        2 ≤ (under key audio).length → read text = .error .malformed := by
  refine ⟨fun draft given => ?_, fun key known twice => ?_, fun audio inside key known twice => ?_⟩
  · have built : read text = draft.filled.checked := by
      rw [read_of_spells spelled, Draft.ofValue?_of_givenBy given]
      rfl
    rw [built, checked_eq]
    refine ⟨fun error bad => ?_, fun topic good => ?_⟩
    · rw [bad]
    · rw [good]
  · rw [read_of_spells spelled, Draft.ofValue?_of_repeated known twice]
    rfl
  · have refused := AudioDraft.ofValue?_of_repeated known twice
    rw [read_of_spells spelled, Draft.ofValue?_of_audio inside refused]
    rfl

/-- Members of the audio object: two fields, and one that is no field. -/
def sparseAudio : List (Text × Value) := [
  (some "format", .object [(some "pcm", .null)]),
  (some "gain", .number ⟨true, ['0'], ['5'], some 2⟩),
  (some "channels", .number (.plain 6))]

/-- Three fields in an order of their own, behind a member that is no field. -/
def sparseMembers : List (Text × Value) := [
  (some "later", .array [.number ⟨false, ['1'], [], some 999⟩, .text none,
    .object [(some "topic", .null), (some "topic", .null)]]),
  (some "topic", .text (some "acme/cam/C1/voice/client")),
  (some "audio", .object sparseAudio),
  (some "fragment_expiry", .number (.pointed 2))]

/-- These members with blanks and escapes. -/
def sparseText : String :=
  " \x7b\"later\":[ 1e999 ,\"\\ud800\", \x7b\"topic\":null,\"topic\":null\x7d],\n" ++
  "\t\"t\\u006Fpic\":\"acme\\/cam/C1/voice/client\",\r\n" ++
  "\"audio\" : \x7b\"format\":\x7b\"pcm\":null\x7d,\"gain\":-0.5E+2,\"channels\":6\x7d,\n" ++
  "\"fragment_expiry\":2.0 \x7d "

def sparseDraft : Draft where
  audio := { channels := some 6, format := some .pcm }
  topic := some "acme/cam/C1/voice/client"
  expiry := some (.ofSeconds 2)

theorem givenBy_sparseMembers : sparseDraft.GivenBy sparseMembers where
  texts := by decide
  audio := by
    refine ⟨some sparseDraft.audio, rfl, .once (by rfl) ⟨sparseAudio, rfl, ?_⟩⟩
    exact ⟨by decide, .missing (by rfl), .once (by rfl) rfl, .once (by rfl) (.key .pcm)⟩
  topic := .once (by rfl) rfl
  maxFragment := .missing (by rfl)
  expiry := .once (by rfl) (.seconds (Number.magnitude?_pointed (by decide)) nofun
    (by decide +kernel))

/-- A document with a second channel count. -/
def doubledMembers : List (Text × Value) := [
  (some "topic", .text (some "")),
  (some "audio", .object [(some "channels", .number (.plain 6)), (some "channels", .null)])]

def doubledText : String :=
  "\x7b\"topic\":\"\",\"audio\":\x7b\"channels\":6,\"channels\":null\x7d\x7d"

theorem sparseText_read :
    Spells sparseText.toList (Value.object sparseMembers).tokens ∧
    read sparseText = .ok {
      audio := { sampleRate := 16000, channels := 6, format := .pcm }
      topic := "acme/cam/C1/voice/client"
      maxFragment := 1024
      expiry := .ofSeconds 2 } ∧
    Spells doubledText.toList (Value.object doubledMembers).tokens ∧
    read doubledText = .error .malformed := by
  have sparse : Spells sparseText.toList (Value.object sparseMembers).tokens :=
    spells_of_tokens? (by decide +kernel)
  have doubled : Spells doubledText.toList (Value.object doubledMembers).tokens :=
    spells_of_tokens? (by decide +kernel)
  have parsed : Topic.parse sparseDraft.filled.topic =
      .ok ⟨"acme", "cam", "C1", "voice", .client⟩ := by rfl
  refine ⟨sparse, ?_, doubled, ?_⟩
  · exact ((read_partial sparse).1 sparseDraft givenBy_sparseMembers).2 _ parsed
  · exact (read_partial doubled).2.2 _ (List.mem_singleton_self _) "channels" (by decide)
      (by decide)

end Config

end VoiceBus
