import VoiceBus.Proofs.Config.Validation
import VoiceBus.Proofs.Encoder.Split
import VoiceBus.Proofs.Transport.Talkers

/-!
# Sending under a configuration that passes

A sender is opened for a configuration exactly when it passes, and a piece size that passes is one
that a frame can announce. So whatever was sent before, a stream can always be encoded, and only its
transport can end it: at the first frame that is not accepted, with those before it published.
-/

namespace VoiceBus.Sender

variable {config : Config} {clock : Nat → UInt16} {sender sender' : Sender} {σ : Type}
  {publish : Publisher σ} {before middle after : σ}

/-! ## Opening -/

theorem ofConfig_of_error {error : ConfigError} (refused : config.validate = .error error) :
    ofConfig config clock = .error (.config error) := by
  unfold ofConfig
  rw [refused]

theorem eq_of_ofConfig (opened : ofConfig config clock = .ok sender) :
    Frame.IsPieceSize config.maxFragment ∧ config.parsedTopic = .ok sender.topic ∧
      sender.maxFragment = config.maxFragment := by
  cases passes : config.validate with
  | error error =>
    rw [ofConfig_of_error passes] at opened
    cases opened
  | ok _ =>
    obtain ⟨⟨topic, parsed⟩, fits⟩ := Config.validate_eq_ok_iff.1 passes
    rw [ofConfig_eq_ok parsed fits] at opened
    obtain rfl := Except.ok.inj opened
    exact ⟨fits, parsed, rfl⟩

theorem path_of_parsedTopic {topic : Topic} (parsed : config.parsedTopic = .ok topic) :
    topic.path = config.topic := by
  unfold Config.parsedTopic at parsed
  cases read : Topic.parse config.topic with
  | error error =>
    rw [read] at parsed
    cases parsed
  | ok found =>
    rw [read] at parsed
    obtain rfl := Except.ok.inj parsed
    exact (Topic.parse_eq_ok_iff.1 read).2.symm

/-! ## The senders of a configuration -/

/-- The sender was opened for the configuration. Since then other encoders may have been put in and
calls may have been made, whatever became of their publishing. -/
inductive MadeFor (config : Config) : Sender → Prop
  | opened {clock : Nat → UInt16} {sender : Sender} :
    ofConfig config clock = .ok sender → MadeFor config sender
  | withEncoder {sender : Sender} (encoder : Encoder) :
    MadeFor config sender → MadeFor config (sender.withEncoder encoder)
  | called {σ : Type} {publish : Publisher σ} {sender sender' : Sender} {call : Call}
    {before after : σ} {result : SendResult Unit} :
    MadeFor config sender → sender.perform publish call before = (result, sender', after) →
      MadeFor config sender'

theorem eq_encode_of_perform {call : Call} {result : SendResult Unit}
    (performed : sender.perform publish call before = (result, sender', after)) :
    sender' = (sender.encode call).2 := by
  cases called_of_perform performed with
  | rejected error nothing => rfl
  | published frames done => rfl

theorem MadeFor.settings (made : MadeFor config sender) :
    Frame.IsPieceSize config.maxFragment ∧ config.parsedTopic = .ok sender.topic ∧
      sender.maxFragment = config.maxFragment := by
  induction made with
  | opened opened => exact eq_of_ofConfig opened
  | withEncoder encoder made ih => exact ih
  | called made performed ih =>
    rw [eq_encode_of_perform performed, topic_encode, maxFragment_encode]
    exact ih

/-! ## The two calls -/

variable {data : Bytes} {notices : List Notice}

theorem publishes_sendStream {result : SendResult Nat}
    (fits : Frame.IsPieceSize sender.maxFragment)
    (streamed : sender.sendStream publish data before = (result, notices, sender', after)) :
    Publishes publish sender.topic (sender.encode (.stream data)).1
      (sender.encode (.stream data)).1.length before result after := by
  unfold sendStream at streamed
  rw [encode_stream_of_isPieceSize fits]
  rw [Encoder.fragments_of_isPieceSize _ _ fits] at streamed
  dsimp only at streamed ⊢
  rcases done : publishAll publish sender.topic
    (sender.encoder.framesOf (Encoder.pieces sender.maxFragment data)) before with
    ⟨outcome, notes, last⟩
  have published := publishes_publishAll done
  rw [done] at streamed
  cases published with
  | all accepted =>
    cases streamed
    exact .all accepted
  | failed parts accepted refused =>
    cases streamed
    exact .failed parts accepted refused
  | blocked parts accepted refused =>
    cases streamed
    exact .blocked parts accepted refused

theorem isSplit_encode (fits : Frame.IsPieceSize sender.maxFragment) :
    IsSplit sender.sequence sender.maxFragment data
      ((sender.encode (.stream data)).1.map Frame.received) := by
  rw [encode_stream_of_isPieceSize fits]
  apply Encoder.isSplit_of_isUtterance fits.1
  · exact Encoder.isUtterance_framesOf _ (Encoder.pieces_ne_nil _ _)
  · rw [List.map_map]
    exact Encoder.map_payload_framesOf _ _

theorem sendFull_of_lt_length (long : Frame.maxPayload < data.length) :
    sender.sendFull publish data before = (.failed (.frame (.payloadTooLarge data.length)), [],
      { sender with
        encoder := { sender.encoder with readings := sender.encoder.readings + 1 } }, before) := by
  unfold sendFull
  rw [Encoder.nextFrame_of_lt_length _ _ long]

theorem publishes_sendFull {result : SendResult UInt16} (short : data.length ≤ Frame.maxPayload)
    (sent : sender.sendFull publish data before = (result, notices, sender', after)) :
    Publishes publish sender.topic [sender.encoder.frameOf .full data] sender.sequence before result
      after := by
  unfold sendFull at sent
  rw [Encoder.nextFrame_of_length_le _ _ short] at sent
  dsimp only at sent
  rcases published : publish ⟨sender.topic, (sender.encoder.frameOf .full data).encode⟩ before
    with ⟨⟨outcome, notes⟩, last⟩
  rw [published] at sent
  cases outcome with
  | accepted =>
    cases sent
    exact .all (.cons published (.nil _))
  | failed error =>
    cases sent
    exact .failed (List.nil_append _).symm (.nil _) published
  | blocked =>
    cases sent
    exact .blocked (List.nil_append _).symm (.nil _) published

/-- A configuration that passes opens a sender, whose streams only the transport can end. -/
theorem validated_sends (config : Config) (clock : Nat → UInt16) :
    (∀ error, config.validate = .error error →
      ofConfig config clock = .error (.config error)) ∧
    (config.validate = .ok () → ∃ sender, ofConfig config clock = .ok sender ∧
      MadeFor config sender) ∧
    ∀ sender, MadeFor config sender → sender.topic.path = config.topic ∧
      ∀ {σ : Type} (publish : Publisher σ) (data : Bytes) (before : σ),
        (∃ frames : List Frame, frames.length = max 1 (data.length ⌈/⌉ config.maxFragment) ∧
          IsSplit sender.sequence config.maxFragment data (frames.map Frame.received) ∧
          ∀ result notices sender' after,
            sender.sendStream publish data before = (result, notices, sender', after) →
            Publishes publish sender.topic frames frames.length before result after ∧
            (result = .sent frames.length ↔
              ∃ last, Accepts publish sender.topic frames before last) ∧
            (∀ error, result = .failed error → ∃ failure, error = .transport failure) ∧
            ∀ queue : σ → List Message, Publisher.IsFifo publish queue → ∃ done, done <+: frames ∧
              queue after = queue before ++ done.map (Frame.toMessage sender.topic) ∧
              (result = .sent frames.length ↔ done = frames)) ∧
        ∀ result notices sender' after,
          sender.sendFull publish data before = (result, notices, sender', after) →
          ((∃ error, result = .failed (.frame error)) ↔ 65535 < data.length) ∧
          (65535 < data.length → after = before ∧ sender'.sequence = sender.sequence) ∧
          (data.length ≤ 65535 → ∃ frame : Frame, frame.payload = data ∧
            Publishes publish sender.topic [frame] sender.sequence before result after) := by
  refine ⟨fun _ => ofConfig_of_error, ?_, ?_⟩
  · intro passes
    obtain ⟨⟨topic, parsed⟩, fits⟩ := Config.validate_eq_ok_iff.1 passes
    exact ⟨_, ofConfig_eq_ok parsed fits, .opened (ofConfig_eq_ok parsed fits)⟩
  · intro sender made
    obtain ⟨fits, parsed, size⟩ := made.settings
    rw [← size] at fits ⊢
    refine ⟨path_of_parsedTopic parsed, fun publish data before => ⟨?_, ?_⟩⟩
    · have split : IsSplit sender.sequence sender.maxFragment data _ := isSplit_encode fits
      refine ⟨(sender.encode (.stream data)).1, ?_, split, ?_⟩
      · rw [← split.count, List.length_map]
      · intro result notices sender' after streamed
        have published := publishes_sendStream fits streamed
        exact ⟨published, published.sent_iff, fun _ => published.transport,
          fun _ fifo => published.grown fifo⟩
    · intro result notices sender' after sent
      by_cases short : data.length ≤ 65535
      · have published := publishes_sendFull short sent
        refine ⟨⟨?_, fun long => absurd short (Nat.not_le.2 long)⟩,
          fun long => absurd short (Nat.not_le.2 long), fun _ => ⟨_, rfl, published⟩⟩
        rintro ⟨error, failed⟩
        obtain ⟨failure, other⟩ := published.transport failed
        cases other
      · have long := Nat.lt_of_not_le short
        rw [sendFull_of_lt_length long] at sent
        cases sent
        exact ⟨⟨fun _ => long, fun _ => ⟨_, rfl⟩⟩, fun _ => ⟨rfl, rfl⟩,
          fun least => absurd least short⟩

/-- A sender that numbers up to the end, and whose first stream is cut off. -/
def interruptedSender : Sender :=
  ((flakySender.withEncoder { audio := {}, sequence := 65535, clock := fun _ => 7 }).perform flaky
    (.stream [1, 2, 3, 4, 5]) ([none, some .closed], { capacity := 5 })).2.1

theorem interruptedSender_sends :
    Config.validate { maxFragment := 2 } = .ok () ∧
    MadeFor { maxFragment := 2 } interruptedSender ∧ interruptedSender.sequence = 2 ∧
    (∃ frames : List Frame, frames.length = 2 ∧
      frames.flatMap (·.payload) = [6, 7, 8] ∧
      Publishes flaky interruptedSender.topic frames 2 ([none, some .closed], { capacity := 5 })
        (.failed (.transport .closed))
        (interruptedSender.sendStream flaky [6, 7, 8]
          ([none, some .closed], { capacity := 5 })).2.2.2) ∧
    ∃ error, (interruptedSender.sendFull flaky (List.replicate 65536 0)
      ([], { capacity := 5 })).1 = .failed (.frame error) := by
  have passes : Config.validate { maxFragment := 2 } = .ok () := by decide +kernel
  have opened : ofConfig { maxFragment := 2 } (fun _ => 7) = .ok flakySender := by
    unfold ofConfig
    rw [passes,
      show Config.parsedTopic { maxFragment := 2 } = .ok flakySender.topic by decide +kernel]
    rfl
  have performed : (flakySender.withEncoder
      { audio := {}, sequence := 65535, clock := fun _ => 7 }).perform flaky
      (.stream [1, 2, 3, 4, 5]) ([none, some .closed], { capacity := 5 }) =
    (_, interruptedSender, _) := rfl
  have made : MadeFor { maxFragment := 2 } interruptedSender :=
    .called (.withEncoder _ (.opened opened)) performed
  obtain ⟨-, -, sends⟩ := validated_sends { maxFragment := 2 } (fun _ => 7)
  obtain ⟨-, calls⟩ := sends interruptedSender made
  refine ⟨passes, made, by decide +kernel, ?_, ?_⟩
  · obtain ⟨⟨frames, count, split, streamed⟩, -⟩ :=
      calls flaky [6, 7, 8] ([none, some .closed], { capacity := 5 })
    have failed : (interruptedSender.sendStream flaky [6, 7, 8]
        ([none, some .closed], { capacity := 5 })).1 = .failed (.transport .closed) := by
      decide +kernel
    rcases done : interruptedSender.sendStream flaky [6, 7, 8]
      ([none, some .closed], { capacity := 5 }) with ⟨result, notices, sender', after⟩
    obtain ⟨published, -⟩ := streamed _ _ _ _ done
    rw [done] at failed
    obtain rfl : result = .failed (.transport .closed) := failed
    rw [show frames.length = 2 from count] at published
    have pieces := split.payloads
    rw [List.flatMap_map] at pieces
    exact ⟨frames, count, pieces, published⟩
  · obtain ⟨-, full⟩ := calls flaky (List.replicate 65536 0) ([], { capacity := 5 })
    rcases done : interruptedSender.sendFull flaky (List.replicate 65536 0)
      ([], { capacity := 5 }) with ⟨result, notices, sender', after⟩
    exact (full _ _ _ _ done).1.2 (by rw [List.length_replicate]; decide)

end VoiceBus.Sender
