import VoiceBus.Frame.Verify

/-! # Joining the frames of one device

A slot holds what is known of the utterance that a device is in the middle of. It fills while
fragments arrive in order. Once one is lost or corrupted, the rest of the utterance is discarded,
so a truncated utterance is never taken for a whole one.
-/

namespace VoiceBus

structure Utterance where
  /-- The header of its first frame. -/
  header : Header
  /-- Its payloads, joined. -/
  audio : Bytes
  /-- The number of frames it came in. -/
  frames : Nat
  deriving DecidableEq, Repr

/-- Why a frame was not used. -/
inductive RejectReason
  | corrupted
  | unknownFlag
  /-- Frames are missing before this one. -/
  | sequenceGap (expected got : UInt16)
  /-- The utterance was damaged before. -/
  | resyncing
  deriving DecidableEq, Repr

/-- What became of a frame. -/
inductive AssemblyEvent
  | complete (utterance : Utterance)
  /-- The frame was kept; so many bytes are now held for its device. -/
  | buffered (pendingBytes : Nat)
  | rejected (reason : RejectReason)
  deriving DecidableEq, Repr

/-- An utterance whose last frame has not arrived. -/
structure Pending where
  header : Header
  audio : Bytes
  frames : Nat
  /-- The sequence number that must come next. -/
  nextSequence : UInt16
  deriving DecidableEq, Repr

/-- What a device is doing. -/
inductive SlotState
  | buffering (pending : Pending)
  /-- Frames are dropped up to the end of a damaged utterance. -/
  | discarding
  deriving DecidableEq, Repr

/-- The state of a device and when it was last touched, in nanoseconds. -/
structure Slot where
  state : SlotState
  lastSeen : Nat
  deriving DecidableEq, Repr

namespace Pending

/-- An utterance about to begin with a frame of this header. -/
def start (header : Header) : Pending := ⟨header, [], 0, header.sequence⟩

def extend (pending : Pending) (sequence : UInt16) (payload : Bytes) : Pending where
  header := pending.header
  audio := pending.audio ++ payload
  frames := pending.frames + 1
  nextSequence := sequence + 1

def toUtterance (pending : Pending) : Utterance :=
  ⟨pending.header, pending.audio, pending.frames⟩

end Pending

namespace Slot

def isBuffering (slot : Slot) : Bool :=
  match slot.state with
  | .buffering _ => true
  | .discarding => false

def isDiscarding (slot : Slot) : Bool := !slot.isBuffering

def heldBytes? (slot : Slot) : Option Nat :=
  match slot.state with
  | .buffering pending => some pending.audio.length
  | .discarding => none

/-- The slot after a damaged fragment: nothing is left to discard when it was the last one. -/
def afterDamage (isLast : Bool) (now : Nat) : Option Slot :=
  if isLast then none else some ⟨.discarding, now⟩

/-- Adds a frame that continues an utterance. -/
def join (pending : Pending) (isLast : Bool) (sequence : UInt16) (payload : Bytes) (now : Nat) :
    AssemblyEvent × Option Slot :=
  let joined := pending.extend sequence payload
  if isLast then (.complete joined.toUtterance, none)
  else (.buffered joined.audio.length, some ⟨.buffering joined, now⟩)

/-- Takes an intact fragment. -/
def takeFragment (slot : Option Slot) (isLast : Bool) (header : Header) (payload : Bytes)
    (now : Nat) : AssemblyEvent × Option Slot :=
  match slot.map Slot.state with
  | none => join (.start header) isLast header.sequence payload now
  | some .discarding => (.rejected .resyncing, afterDamage isLast now)
  | some (.buffering pending) =>
    if pending.nextSequence = header.sequence then
      join pending isLast header.sequence payload now
    else
      (.rejected (.sequenceGap pending.nextSequence header.sequence), afterDamage isLast now)

/-- Takes a frame of the slot's device. The flag and the number of a corrupted frame are not
looked at. -/
def push (slot : Option Slot) (frame : VerifiedFrame) (now : Nat) :
    AssemblyEvent × Option Slot :=
  if frame.valid then
    match frame.header.flag? with
    | none => (.rejected .unknownFlag, slot)
    | some .full => (.complete ⟨frame.header, frame.payload, 1⟩, none)
    | some .fragment => takeFragment slot false frame.header frame.payload now
    | some .last => takeFragment slot true frame.header frame.payload now
  else (.rejected .corrupted, some ⟨.discarding, now⟩)

/-- Whether the slot has been idle for longer than `expiry` nanoseconds. A time before the last
touch counts as no idling. -/
def isStale (expiry now : Nat) (slot : Slot) : Bool := expiry < now - slot.lastSeen

end Slot

end VoiceBus
