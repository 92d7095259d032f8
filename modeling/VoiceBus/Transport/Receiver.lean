import VoiceBus.Error
import VoiceBus.Frame.Verify
import VoiceBus.Notice.Codec
import VoiceBus.Transport.Bus

/-! # Receiving

A receiver takes messages off the bus and checks each as a frame. A message that is no frame is an
error of that message alone. A frame with a wrong checksum is handed on, with its verdict.
-/

namespace VoiceBus

/-- A frame and the topic that it came on. -/
structure ReceivedFrame where
  topic : Topic
  frame : VerifiedFrame
  deriving DecidableEq, Repr

/-- What a receiver answers. -/
inductive Reception
  | frame (received : ReceivedFrame)
  | failed (error : Error)
  | waiting
  | closed
  deriving DecidableEq, Repr

/-- The counters of a receiver. -/
structure Receiver where
  /-- Frames taken, whether or not their checksum was right. -/
  received : Nat := 0
  /-- Frames taken whose checksum was wrong. -/
  corrupted : Nat := 0
  deriving DecidableEq, Repr

namespace Receiver

def take (message : Message) (receiver : Receiver) : Except FrameError ReceivedFrame × Receiver :=
  match Frame.verify message.payload with
  | .error error => (.error error, receiver)
  | .ok frame =>
    (.ok ⟨message.topic, frame⟩,
      ⟨receiver.received + 1, receiver.corrupted + if frame.valid then 0 else 1⟩)

def takeNotices (message : Message) : List Notice :=
  Frame.verifyNotices message.payload ++
    match Frame.verify message.payload with
    | .error error => [.frameMalformed message.topic message.payload.length error]
    | .ok frame =>
      if frame.valid then []
      else [.checksumFailed message.topic frame.header.sequence frame.header.checksum
        frame.computedChecksum]

/-- Takes the next message off the bus and checks it. -/
def next (receiver : Receiver) (bus : Bus) : Reception × List Notice × Receiver × Bus :=
  match bus.receive with
  | (.waiting, bus) => (.waiting, [], receiver, bus)
  | (.closed, bus) => (.closed, [], receiver, bus)
  | (.message message, bus) =>
    match receiver.take message with
    | (.error error, receiver) => (.failed (.frame error), takeNotices message, receiver, bus)
    | (.ok frame, receiver) => (.frame frame, takeNotices message, receiver, bus)

end Receiver

end VoiceBus
