import VoiceBus.Proofs.Config.Validation
import VoiceBus.Proofs.Encoder.Requests
import VoiceBus.Proofs.Transport.Talkers

/-!
# From a configuration to the wire

Every frame that a sender makes carries the sample rate and the format of the configuration that the
sender was made from. Of the number of channels it carries the low two bits, and no check of the
configuration refuses a number that needs more.
-/

namespace VoiceBus

/-- The header describes a stream; of the number of channels it keeps as much as fits. -/
structure Header.Describes (header : Header) (audio : AudioParams) : Prop where
  sampleRate : header.sampleRate = audio.sampleRate
  channels : header.channelCount = audio.channels % 4
  format : header.audioFormat? = some audio.format

theorem Header.Describes.channels_iff {audio : AudioParams} {header : Header}
    (h : header.Describes audio) : header.channelCount = audio.channels ↔ audio.channels ≤ 3 := by
  simp only [h.channels, ← UInt8.toNat_inj, UInt8.toNat_mod, UInt8.le_iff_toNat_le,
    UInt8.reduceToNat]
  omega

theorem Encoder.Carries.describes {encoder : Encoder} {frames : List VerifiedFrame}
    (carries : encoder.Carries frames) : ∀ frame ∈ frames, frame.header.Describes encoder.audio := by
  intro frame member
  obtain ⟨-, -, format, sampleRate, channels⟩ := carries.fields frame member
  exact ⟨sampleRate, channels, format⟩

namespace Sender

variable {sender : Sender}

/-! ## One call -/

theorem audio_encode (sender : Sender) (call : Call) :
    (sender.encode call).2.encoder.audio = sender.encoder.audio := by
  cases call with
  | full data =>
    by_cases fits : data.length ≤ Frame.maxPayload
    · rw [encode_full_of_length_le fits]
      rfl
    · rw [encode_full_of_lt_length (Nat.lt_of_not_le fits)]
  | stream data =>
    by_cases fits : Frame.IsPieceSize sender.maxFragment
    · rw [encode_stream_of_isPieceSize fits]
      rfl
    · rw [encode_stream_of_not_isPieceSize fits]

theorem carries_encode (sender : Sender) (call : Call) :
    sender.encoder.Carries ((sender.encode call).1.map Frame.received) := by
  cases call with
  | full data =>
    by_cases fits : data.length ≤ Frame.maxPayload
    · rw [encode_full_of_length_le fits]
      exact Encoder.carries_cons .full data (Encoder.carries_nil _)
    · rw [encode_full_of_lt_length (Nat.lt_of_not_le fits)]
      exact Encoder.carries_nil _
  | stream data =>
    by_cases fits : Frame.IsPieceSize sender.maxFragment
    · rw [encode_stream_of_isPieceSize fits]
      exact Encoder.carries_framesOf _ _
    · rw [encode_stream_of_not_isPieceSize fits]
      exact Encoder.carries_nil _

theorem describes_encode (call : Call) : ∀ frame ∈ (sender.encode call).1,
    ∃ checked, Frame.verify frame.encode = .ok checked ∧ checked.valid = true ∧
      checked.header.Describes sender.encoder.audio := by
  intro frame member
  exact ⟨frame.received, (sender.encoded call).checked frame member, rfl,
    (sender.carries_encode call).describes _ (List.mem_map_of_mem member)⟩

/-! ## All calls -/

theorem describes_encodeAll {calls : List Call} : ∀ frame ∈ (sender.encodeAll calls).flatten,
    ∃ checked, Frame.verify frame.encode = .ok checked ∧ checked.valid = true ∧
      checked.header.Describes sender.encoder.audio := by
  induction calls generalizing sender with
  | nil => simp [encodeAll]
  | cons call rest ih =>
    rw [encodeAll, List.flatten_cons, List.forall_mem_append]
    refine ⟨describes_encode call, ?_⟩
    rw [← audio_encode sender call]
    exact ih

theorem exists_frame_of_published {σ : Type} {publish : Publisher σ} {queue : σ → List Message}
    {calls : List Call} {reports : List Report} {before after : σ}
    (fifo : Publisher.IsFifo publish queue)
    (performed : sender.performAll publish queue calls before = (reports, after)) :
    ∀ message ∈ reports.flatMap (·.published), ∃ frame ∈ (sender.encodeAll calls).flatten,
      message = frame.toMessage sender.topic := by
  induction calls generalizing sender before reports with
  | nil =>
    cases performed
    simp
  | cons call rest ih =>
    obtain ⟨result, middle, others, count, published, remaining, rfl⟩ :=
      performAll_cons fifo performed
    rw [encodeAll, List.flatten_cons, List.flatMap_cons, List.forall_mem_append]
    refine ⟨?_, ?_⟩
    · intro message member
      obtain ⟨frame, among, rfl⟩ := List.mem_map.1 member
      exact ⟨frame, List.mem_append_left _ (List.mem_of_mem_take among), rfl⟩
    · intro message member
      obtain ⟨frame, among, rfl⟩ := ih remaining message member
      rw [topic_encode]
      exact ⟨frame, List.mem_append_right _ among, rfl⟩

/-- Every frame carries the settings of its sender, of the channels the low two bits. -/
theorem settings_reach_frames {config : Config}
    (accepted : (∃ text, Config.read text = .ok config) ∨ ∃ draft : Draft, draft.build = .ok config)
    (clock : Nat → UInt16) :
    ∃ sender, ofConfig config clock = .ok sender ∧ ∀ calls : List Call,
      (∀ frame ∈ (sender.encodeAll calls).flatten,
        ∃ checked, Frame.verify frame.encode = .ok checked ∧ checked.valid = true ∧
          checked.header.sampleRate = config.audio.sampleRate ∧
          checked.header.audioFormat? = some config.audio.format ∧
          checked.header.channelCount = config.audio.channels % 4 ∧
          (checked.header.channelCount = config.audio.channels ↔ config.audio.channels ≤ 3)) ∧
      ∀ {σ : Type} (publish : Publisher σ) (queue : σ → List Message) (before : σ),
        Publisher.IsFifo publish queue →
        ∀ message ∈ (sender.performAll publish queue calls before).1.flatMap (·.published),
          ∃ frame ∈ (sender.encodeAll calls).flatten, message = frame.toMessage sender.topic := by
  have passed : config.validate = .ok () := by
    rcases accepted with ⟨text, loaded⟩ | ⟨draft, built⟩
    · exact Config.validate_of_read loaded
    · exact Config.validate_of_build built
  obtain ⟨⟨topic, parsed⟩, fits⟩ := Config.validate_eq_ok_iff.1 passed
  refine ⟨_, ofConfig_eq_ok parsed fits, fun calls => ⟨?_, ?_⟩⟩
  · intro frame member
    obtain ⟨checked, verified, valid, describes⟩ := describes_encodeAll frame member
    exact ⟨checked, verified, valid, describes.sampleRate, describes.format,
      describes.channels, describes.channels_iff⟩
  · intro σ publish queue before fifo message member
    exact exists_frame_of_published fifo rfl message member

/-- A configuration with more channels than a frame can say. -/
def hexaphonic : Config := { audio := { channels := 6 }, maxFragment := 2 }

def hexaphonicText : String :=
  "\x7b\"max_fragment_size\": 2, \"audio\": \x7b\"channels\": 6\x7d\x7d"

theorem hexaphonic_carried :
    Config.read hexaphonicText = .ok hexaphonic ∧
    ∃ sender, ofConfig hexaphonic (fun _ => 7) = .ok sender ∧
      (∀ frame ∈ (sender.encodeAll [.full [9], .stream [1, 2, 3]]).flatten,
        ∃ checked, Frame.verify frame.encode = .ok checked ∧ checked.header.channelCount = 2) ∧
      Publisher.IsFifo Publisher.collect id ∧
      ∀ message ∈ (sender.performAll Publisher.collect id
          [.full [9], .stream [1, 2, 3]] []).1.flatMap (·.published),
        ∃ frame ∈ (sender.encodeAll [.full [9], .stream [1, 2, 3]]).flatten,
          message = frame.toMessage sender.topic := by
  have loaded : Config.read hexaphonicText = .ok hexaphonic := by decide +kernel
  obtain ⟨sender, opened, reach⟩ :=
    settings_reach_frames (Or.inl ⟨hexaphonicText, loaded⟩) (fun _ => 7)
  obtain ⟨carried, published⟩ := reach [.full [9], .stream [1, 2, 3]]
  refine ⟨loaded, sender, opened, ?_, Publisher.isFifo_collect,
    published Publisher.collect id [] Publisher.isFifo_collect⟩
  intro frame member
  obtain ⟨checked, verified, -, -, -, channels, -⟩ := carried frame member
  exact ⟨checked, verified, channels⟩

theorem hexaphonic_arrives_stereo :
    Config.read hexaphonicText = .ok hexaphonic ∧
    ∃ sender, ofConfig hexaphonic (fun _ => 7) = .ok sender ∧
      ∃ frame ∈ (sender.encode (.full [9])).1, ∃ checked,
        Frame.verify frame.encode = .ok checked ∧
        checked.header.channelCount = 2 ∧ hexaphonic.audio.channels = 6 := by
  have parsed : hexaphonic.parsedTopic = .ok ⟨"test", "T0001", "A0001", "voice", .server⟩ := by
    decide +kernel
  refine ⟨by decide +kernel, _, ofConfig_eq_ok parsed (by decide), _, List.mem_cons_self .., ?_⟩
  exact ⟨_, Encoder.verify_frameOf _ .full [] (by decide), rfl, rfl⟩

end Sender

end VoiceBus
