import VoiceBus.Fault
import VoiceBus.Notice.Basic
import VoiceBus.Transport.Bus

/-! # Where messages are published -/

namespace VoiceBus

/-- What became of an attempt to publish, and the notices on the way. -/
structure Attempt where
  outcome : Outcome
  notices : List Notice := []
  deriving DecidableEq, Repr

/-- A way to publish through a transport whose state is `σ`. -/
abbrev Publisher (σ : Type) := Message → σ → Attempt × σ

/-- A publishing end. -/
inductive Sink
  /-- An end of the bus. -/
  | channel
  /-- Keeps what it is given. It takes `room` messages, or any number, and then fails for a reason
  or as closed. -/
  | recorder (room : Option Nat) (failure : Option String)
  /-- Loses and corrupts messages before it hands them on. -/
  | faulty (inner : Sink) (profile : FaultProfile)
  deriving Repr

/-- A sink and what it writes to. -/
structure Outlet where
  sink : Sink
  bus : Bus
  /-- What recorders took. -/
  recorded : Queue Message := .empty
  chance : Chance

namespace Sink

/-- The number of ends of the bus that the sink holds. -/
def ends : Sink → Nat
  | channel => 1
  | recorder .. => 0
  | faulty inner _ => inner.ends

/-- The error of a recorder that takes nothing more. -/
def refusal (topic : Topic) : Option String → TransportError
  | some reason => .publishFailed topic.path reason
  | none => .closed

/-- Publishes through a sink that stands in an outlet in place of the outlet's own. -/
def publish : Sink → Publisher Outlet
  | channel, message, outlet =>
    let (outcome, bus) := outlet.bus.publish message
    (⟨outcome, []⟩, { outlet with sink := channel, bus })
  | recorder (some 0) failure, message, outlet =>
    (⟨.failed (refusal message.topic failure), []⟩,
      { outlet with sink := recorder (some 0) failure })
  | recorder room failure, message, outlet =>
    (⟨.accepted, []⟩, { outlet with
      sink := recorder (room.map (· - 1)) failure
      recorded := outlet.recorded.push message })
  | faulty inner profile, message, outlet =>
    let (luck, chance) := outlet.chance.draw
    let outlet := { outlet with chance }
    let length := message.payload.length
    if profile.drops luck.loss then
      (⟨.accepted, [.faultDropped message.topic length]⟩,
        { outlet with sink := faulty inner profile })
    else
      let corrupt := profile.corrupts luck.corruption
      let notices := if corrupt then [Notice.faultFlipped message.topic length] else []
      let payload := if corrupt then flipPicked luck.bit message.payload else message.payload
      let (attempt, outlet) := inner.publish { message with payload } outlet
      (⟨attempt.outcome, notices ++ attempt.notices⟩,
        { outlet with sink := faulty outlet.sink profile })

end Sink

def Outlet.publish : Publisher Outlet := fun message outlet => outlet.sink.publish message outlet

end VoiceBus
