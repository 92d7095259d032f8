import VoiceBus.Assembler.Slot
import VoiceBus.Clock
import VoiceBus.Table

/-! # Joining the frames of many devices

Every device has a slot of its own, and a frame changes the slot of its device only.
-/

namespace VoiceBus

/-- What is known of every device. -/
structure Assembler where
  slots : Table Slot := .empty
  /-- How long a device may be idle before it is forgotten. -/
  expiry : Duration

namespace Assembler

def new (expiry : Duration) : Assembler := { expiry }

def push (assembler : Assembler) (device : String) (frame : VerifiedFrame) (now : Nat) :
    AssemblyEvent × Assembler :=
  let (event, slot) := Slot.push (assembler.slots.get? device) frame now
  (event, { assembler with slots := assembler.slots.set device slot })

def isStale (assembler : Assembler) (now : Nat) (slot : Slot) : Bool :=
  slot.isStale assembler.expiry.total now

/-- Forgets the devices that have been idle for longer than the expiry, and counts them. -/
def evict (assembler : Assembler) (now : Nat) : Nat × Assembler :=
  let kept := assembler.slots.filter fun _ slot => !assembler.isStale now slot
  (assembler.slots.size - kept.size, { assembler with slots := kept })

/-- The number of devices with part of an utterance held. -/
def pending (assembler : Assembler) : Nat := assembler.slots.count fun _ slot => slot.isBuffering

/-- Whether frames of a device are dropped up to the end of a damaged utterance. -/
def isResyncing (assembler : Assembler) (device : String) : Bool :=
  (assembler.slots.get? device).any Slot.isDiscarding

def resyncing (assembler : Assembler) : List String :=
  (assembler.slots.keys.filter assembler.isResyncing).mergeSort fun a b => decide (a ≤ b)

/-! ## What a step does to a slot -/

@[simp] theorem get?_push_self (assembler : Assembler) (device : String) (frame : VerifiedFrame)
    (now : Nat) :
    (assembler.push device frame now).2.slots.get? device =
      (Slot.push (assembler.slots.get? device) frame now).2 := by
  simp [push]

theorem get?_push_of_ne (assembler : Assembler) {device other : String} (frame : VerifiedFrame)
    (now : Nat) (h : other ≠ device) :
    (assembler.push device frame now).2.slots.get? other = assembler.slots.get? other :=
  assembler.slots.get?_set_of_ne _ h

theorem get?_evict (assembler : Assembler) (device : String) (now : Nat) :
    (assembler.evict now).2.slots.get? device =
      (assembler.slots.get? device).filter fun slot => !assembler.isStale now slot :=
  assembler.slots.get?_filter _ device

end Assembler

end VoiceBus
