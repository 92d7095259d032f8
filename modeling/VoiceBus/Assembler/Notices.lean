import VoiceBus.Assembler.Basic
import VoiceBus.Notice.Basic

/-! # Notices of the assembler -/

namespace VoiceBus

/-- Notices of a frame, given the slot that it met and what became of it. -/
def Slot.pushNotices (device : String) (slot : Option Slot) (frame : VerifiedFrame) :
    AssemblyEvent → List Notice
  | .complete utterance =>
    if frame.header.flag? = some .last then
      [.utteranceComplete device utterance.frames utterance.audio.length]
    else []
  | .buffered _ => []
  | .rejected .corrupted =>
    match slot.bind heldBytes? with
    | some bytes => [.fragmentCorrupted device bytes]
    | none => []
  | .rejected .unknownFlag => []
  | .rejected (.sequenceGap expected got) => [.sequenceGap device expected got]
  | .rejected .resyncing =>
    if frame.header.flag? = some .last then [.resynchronised device frame.header.sequence] else []

namespace Assembler

def pushNotices (assembler : Assembler) (device : String) (frame : VerifiedFrame) :
    AssemblyEvent → List Notice :=
  Slot.pushNotices device (assembler.slots.get? device) frame

/-- Notices of `evict`, in the order of the devices: one for each utterance that is lost. -/
def evictNotices (assembler : Assembler) (now : Nat) : List Notice :=
  let stale := assembler.slots.entries.filter fun entry => assembler.isStale now entry.2
  let sorted := stale.mergeSort fun a b => decide (a.1 ≤ b.1)
  sorted.filterMap fun (device, slot) => slot.heldBytes?.map (.fragmentsEvicted device ·)

end Assembler

end VoiceBus
