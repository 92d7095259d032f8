import VoiceBus.Error
import VoiceBus.Notice.Codec
import VoiceBus.Transport.Sink

/-! # Sending

A sender encodes sound and publishes the frames on its topic. All frames of a call are made before
the first is published, so their numbers are used up even when publishing ends early.
-/

namespace VoiceBus

/-- What became of a call that sends. -/
inductive SendResult (α : Type)
  | sent (value : α)
  | failed (error : Error)
  /-- A publish would have had to wait; the call ended there. -/
  | blocked
  deriving DecidableEq, Repr

/-- What sends one stream. -/
structure Sender where
  topic : Topic
  encoder : Encoder
  /-- The longest payload of one piece of a stream. -/
  maxFragment : Nat

namespace Sender

/-- A sender for a configuration that passes, numbering from zero. -/
def ofConfig (config : Config) (clock : Nat → UInt16) : Except Error Sender :=
  match config.validate with
  | .error error => .error (.config error)
  | .ok () =>
    match config.parsedTopic with
    | .error error => .error (.config error)
    | .ok topic => .ok ⟨topic, { audio := config.audio, clock }, config.maxFragment⟩

def sequence (sender : Sender) : UInt16 := sender.encoder.sequence

def withSequence (sequence : UInt16) (sender : Sender) : Sender :=
  { sender with encoder := sender.encoder.withSequence sequence }

variable {σ : Type}

/-- Publishes one utterance in one frame. The value is the number of the frame. -/
def sendFull (publish : Publisher σ) (data : Bytes) (sender : Sender) (transport : σ) :
    SendResult UInt16 × List Notice × Sender × σ :=
  match sender.encoder.nextFrame .full data with
  | (.error error, encoder) => (.failed (.frame error), [], { sender with encoder }, transport)
  | (.ok frame, encoder) =>
    let sender := { sender with encoder }
    let sequence := frame.header.sequence
    let (attempt, transport) := publish ⟨sender.topic, frame.encode⟩ transport
    let notices := Encoder.wireNotices frame ++ attempt.notices
    match attempt.outcome with
    | .accepted =>
      (.sent sequence, notices ++ [.fullPublished sender.topic sequence encoder.audio frame.size],
        sender, transport)
    | .failed error =>
      (.failed (.transport error), notices ++ [.publishFailed sender.topic sequence error],
        sender, transport)
    | .blocked => (.blocked, notices, sender, transport)

/-- Publishes frames in order, up to the first that is not accepted. -/
def publishAll (publish : Publisher σ) (topic : Topic) :
    List Frame → σ → SendResult Unit × List Notice × σ
  | [], transport => (.sent (), [], transport)
  | frame :: rest, transport =>
    let sequence := frame.header.sequence
    match publish ⟨topic, frame.encode⟩ transport with
    | (⟨.accepted, notices⟩, transport) =>
      let (result, others, transport) := publishAll publish topic rest transport
      (result,
        notices ++ [.fragmentPublished topic sequence rest.isEmpty frame.size] ++ others,
        transport)
    | (⟨.failed error, notices⟩, transport) =>
      (.failed (.transport error), notices ++ [.publishFailed topic sequence error], transport)
    | (⟨.blocked, notices⟩, transport) => (.blocked, notices, transport)

/-- Publishes one utterance in pieces. The value is the number of frames. -/
def sendStream (publish : Publisher σ) (data : Bytes) (sender : Sender) (transport : σ) :
    SendResult Nat × List Notice × Sender × σ :=
  let first := sender.sequence
  match sender.encoder.fragments sender.maxFragment data with
  | (.error error, encoder) => (.failed (.frame error), [], { sender with encoder }, transport)
  | (.ok frames, encoder) =>
    let sender := { sender with encoder }
    let encoding := frames.flatMap Encoder.wireNotices
    match publishAll publish sender.topic frames transport with
    | (.sent (), notices, transport) =>
      (.sent frames.length,
        encoding ++ notices ++
          [.streamPublished sender.topic first frames.length data.length],
        sender, transport)
    | (.failed error, notices, transport) =>
      (.failed error, encoding ++ notices, sender, transport)
    | (.blocked, notices, transport) => (.blocked, encoding ++ notices, sender, transport)

end Sender

end VoiceBus
