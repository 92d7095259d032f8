import VoiceBus.Assembler.Basic
import VoiceBus.Proofs.Assembler.Slot
import VoiceBus.Proofs.Table

/-!
# The ways out of a push

A push is followed through the table, one look-up or change after the other, to the place where it
leaves. Two of these places are there for the types only: the slot found for a fragment might not be
filling, and what is taken out behind the last one might be no utterance. No push gets there, and
what it does on its way is what the step of the device's slot says.
-/

namespace VoiceBus

/-- Where a push leaves. -/
inductive Exit
  | corrupted
  | unknownFlag
  | full
  | resyncing
  | gap
  /-- The slot that was found or opened for a fragment is not filling. -/
  | notFilling
  | buffered
  /-- What was taken out behind the last fragment is no utterance. -/
  | nothingTaken
  | completed
  deriving DecidableEq, Repr

/-- Whether the exit stands there for the types only. -/
def Exit.isFallback : Exit → Bool
  | notFilling | nothingTaken => true
  | corrupted | unknownFlag | full | resyncing | gap | buffered | completed => false

/-- A push done: where it left, what it answered and the table that it left. -/
structure Passage where
  exit : Exit
  event : AssemblyEvent
  slots : Table Slot

namespace Passage

def discard (slots : Table Slot) (device : String) (now : Nat) : Table Slot :=
  slots.insert device ⟨.discarding, now⟩

/-- The table after a damaged fragment. -/
def drop (slots : Table Slot) (device : String) (isLast : Bool) (now : Nat) : Table Slot :=
  if isLast then slots.erase device else discard slots device now

/-- Takes the utterance of a device out of the table. -/
def close (slots : Table Slot) (device : String) (pendingBytes : Nat) : Passage :=
  match slots.get? device with
  | some ⟨.buffering done, _⟩ => ⟨.completed, .complete done.toUtterance, slots.erase device⟩
  | _ => ⟨.nothingTaken, .buffered pendingBytes, slots.erase device⟩

/-- Adds a fragment to the slot of its device. One is opened if there is none. -/
def fill (slots : Table Slot) (device : String) (isLast : Bool) (frame : VerifiedFrame)
    (now : Nat) : Passage :=
  let slot := (slots.get? device).getD ⟨.buffering (.start frame.header), now⟩
  match slot.state with
  | .discarding => ⟨.notFilling, .rejected .resyncing, slots.insert device ⟨.discarding, now⟩⟩
  | .buffering pending =>
    let joined := pending.extend frame.header.sequence frame.payload
    let filled := slots.insert device ⟨.buffering joined, now⟩
    if isLast then close filled device joined.audio.length
    else ⟨.buffered, .buffered joined.audio.length, filled⟩

def takeFragment (slots : Table Slot) (device : String) (isLast : Bool) (frame : VerifiedFrame)
    (now : Nat) : Passage :=
  match (slots.get? device).map Slot.state with
  | some .discarding => ⟨.resyncing, .rejected .resyncing, drop slots device isLast now⟩
  | some (.buffering pending) =>
    if pending.nextSequence ≠ frame.header.sequence then
      ⟨.gap, .rejected (.sequenceGap pending.nextSequence frame.header.sequence),
        drop slots device isLast now⟩
    else fill slots device isLast frame now
  | none => fill slots device isLast frame now

def push (slots : Table Slot) (device : String) (frame : VerifiedFrame) (now : Nat) : Passage :=
  if frame.valid then
    match frame.header.flag? with
    | none => ⟨.unknownFlag, .rejected .unknownFlag, slots⟩
    | some .full =>
      ⟨.full, .complete ⟨frame.header, frame.payload, 1⟩, slots.erase device⟩
    | some .fragment => takeFragment slots device false frame now
    | some .last => takeFragment slots device true frame now
  else ⟨.corrupted, .rejected .corrupted, discard slots device now⟩

/-! ## Passages and steps of a slot -/

/-- The passage through a table leaves by no fallback and does what a step of the device's slot
does. -/
structure Does (slots : Table Slot) (device : String) (passage : Passage)
    (step : AssemblyEvent × Option Slot) : Prop where
  exit : passage.exit.isFallback = false
  event : passage.event = step.1
  slots : ∀ other, passage.slots.get? other = (slots.set device step.2).get? other

variable {slots : Table Slot} {device : String}

theorem drop_eq_set (slots : Table Slot) (device : String) (isLast : Bool) (now : Nat) :
    drop slots device isLast now = slots.set device (Slot.afterDamage isLast now) := by
  cases isLast <;> rfl

theorem does_close (slots : Table Slot) (device : String) (pending : Pending) (bytes now : Nat) :
    Does slots device (close (slots.insert device ⟨.buffering pending, now⟩) device bytes)
      (.complete pending.toUtterance, none) := by
  have taken : close (slots.insert device ⟨.buffering pending, now⟩) device bytes =
      ⟨.completed, .complete pending.toUtterance,
        (slots.insert device ⟨.buffering pending, now⟩).erase device⟩ := by
    simp only [close, Table.get?_insert_self]
  rw [taken]
  exact ⟨rfl, rfl, fun other => slots.get?_erase_insert device other _⟩

theorem does_fill {frame : VerifiedFrame} {pending : Pending} (isLast : Bool) (now : Nat)
    (next : Slot.Continues frame.header (slots.get? device) pending) :
    Does slots device (fill slots device isLast frame now)
      (Slot.join pending isLast frame.header.sequence frame.payload now) := by
  have filling : ((slots.get? device).getD ⟨.buffering (.start frame.header), now⟩).state =
      .buffering pending := by
    generalize slots.get? device = slot at next
    cases next <;> rfl
  simp only [fill, filling, Slot.join]
  cases isLast with
  | true => exact does_close slots device _ _ now
  | false => exact ⟨rfl, rfl, fun _ => rfl⟩

theorem does_takeFragment (slots : Table Slot) (device : String) (isLast : Bool)
    (frame : VerifiedFrame) (now : Nat) :
    Does slots device (takeFragment slots device isLast frame now)
      (Slot.takeFragment (slots.get? device) isLast frame.header frame.payload now) := by
  unfold takeFragment Slot.takeFragment
  -- what the look-up finds is what the filling finds again
  cases found : slots.get? device with
  | none => exact does_fill isLast now (found ▸ .opens)
  | some slot =>
    obtain ⟨pending | _, since⟩ := slot
    · by_cases next : pending.nextSequence = frame.header.sequence
      · simp only [Option.map_some, next, ne_eq, not_true_eq_false, if_false, if_true]
        exact does_fill isLast now (found ▸ .next next)
      · simp only [Option.map_some, next, ne_eq, not_false_eq_true, if_false, if_true]
        exact ⟨rfl, rfl, fun other => by rw [drop_eq_set]⟩
    · exact ⟨rfl, rfl, fun other => congrArg (·.get? other) (drop_eq_set slots device isLast now)⟩

theorem does_push (slots : Table Slot) (device : String) (frame : VerifiedFrame) (now : Nat) :
    Does slots device (push slots device frame now)
      (Slot.push (slots.get? device) frame now) := by
  unfold push Slot.push
  by_cases valid : frame.valid = true
  · rw [if_pos valid, if_pos valid]
    cases frame.header.flag? with
    | none => exact ⟨rfl, rfl, fun other => (slots.get?_set_get? device other).symm⟩
    | some flag =>
      cases flag with
      | full => exact ⟨rfl, rfl, fun _ => rfl⟩
      | fragment => exact does_takeFragment slots device false frame now
      | last => exact does_takeFragment slots device true frame now
  · rw [if_neg valid, if_neg valid]
    exact ⟨rfl, rfl, fun _ => rfl⟩

end Passage

end VoiceBus
