import VoiceBus.Octets
import VoiceBus.Queue
import VoiceBus.Topic

/-! # The bus: a bounded queue of messages

Messages leave in the order in which they came, each once. A publisher waits while the queue is
full and fails once the receiver is gone; a receiver waits while the queue is empty and is told
when no publisher is left.
-/

namespace VoiceBus

/-- Why a transport did not take a message. -/
inductive TransportError
  /-- The other side is gone. -/
  | closed
  /-- The transport refused the message. -/
  | publishFailed (topic : String) (reason : String)
  deriving DecidableEq, Repr

def TransportError.message : TransportError → String
  | closed => "transport closed"
  | publishFailed topic reason => s!"publish to {topic} failed: {reason}"

/-- A frame on its way. -/
structure Message where
  topic : Topic
  payload : Bytes
  deriving DecidableEq, Repr

/-- What became of an attempt to publish. -/
inductive Outcome
  | accepted
  | failed (error : TransportError)
  /-- There is no room yet; the message is left with the publisher. -/
  | blocked
  deriving DecidableEq, Repr

/-- What a receiver finds. -/
inductive Arrival
  | message (message : Message)
  /-- Nothing yet. -/
  | waiting
  /-- Nothing any more. -/
  | closed
  deriving DecidableEq, Repr

/-- The state of the bus. -/
structure Bus where
  /-- The number of messages that the queue holds. -/
  capacity : Nat
  queue : Queue Message := .empty
  /-- The number of open publishing ends. -/
  publishers : Nat := 0
  /-- Whether the receiving end is open. -/
  receiving : Bool := true
  deriving DecidableEq, Repr

namespace Bus

def publish (message : Message) (bus : Bus) : Outcome × Bus :=
  if !bus.receiving then (.failed .closed, bus)
  else if bus.queue.size < bus.capacity then
    (.accepted, { bus with queue := bus.queue.push message })
  else (.blocked, bus)

def receive (bus : Bus) : Arrival × Bus :=
  match bus.queue.pop? with
  | some (message, rest) => (.message message, { bus with queue := rest })
  | none => (if bus.receiving && bus.publishers != 0 then .waiting else .closed, bus)

def attach (count : Nat) (bus : Bus) : Bus := { bus with publishers := bus.publishers + count }

def detach (count : Nat) (bus : Bus) : Bus := { bus with publishers := bus.publishers - count }

/-- Closes the receiving end. The messages that wait are lost. -/
def closeReceiver (bus : Bus) : Bus := { bus with queue := .empty, receiving := false }

theorem publish_accepted {message : Message} {bus after : Bus}
    (h : bus.publish message = (.accepted, after)) :
    after = { bus with queue := bus.queue.push message } := by
  simp only [publish] at h
  split at h
  · simp at h
  · split at h <;> simp_all

theorem publish_not_accepted {message : Message} {bus : Bus}
    (h : (bus.publish message).1 ≠ .accepted) : (bus.publish message).2 = bus := by
  revert h
  simp only [publish]
  split
  · simp
  · split <;> simp

end Bus

end VoiceBus
