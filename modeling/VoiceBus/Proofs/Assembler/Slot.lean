import VoiceBus.Assembler.Slot

/-! # What a frame can do to a slot

`Pushed` lists every way in which a slot takes a frame, with what must hold for it. The proofs
about assemblers read this list and never the code.
-/

namespace VoiceBus

/-- An intact frame that ends an utterance. -/
def VerifiedFrame.IsEnd (frame : VerifiedFrame) : Prop :=
  frame.valid = true ∧ (frame.header.flag? = some .last ∨ frame.header.flag? = some .full)

namespace Slot

/-- The utterance that an intact fragment of this header is joined to: the one held, if the
fragment is its next, or a new one. -/
inductive Continues (header : Header) : Option Slot → Pending → Prop
  | opens : Continues header none (.start header)
  | next {pending : Pending} {since : Nat} (h : pending.nextSequence = header.sequence) :
    Continues header (some ⟨.buffering pending, since⟩) pending

/-- A slot that takes a frame: the slot before, what became of the frame, the slot after. -/
inductive Pushed (frame : VerifiedFrame) (now : Nat) :
    Option Slot → AssemblyEvent → Option Slot → Prop
  | corrupted {slot : Option Slot} (valid : frame.valid = false) :
    Pushed frame now slot (.rejected .corrupted) (some ⟨.discarding, now⟩)
  | unknownFlag {slot : Option Slot} (valid : frame.valid = true)
    (flag : frame.header.flag? = none) : Pushed frame now slot (.rejected .unknownFlag) slot
  | full {slot : Option Slot} (valid : frame.valid = true)
    (flag : frame.header.flag? = some .full) :
    Pushed frame now slot (.complete ⟨frame.header, frame.payload, 1⟩) none
  | buffered {slot : Option Slot} {pending : Pending} (valid : frame.valid = true)
    (flag : frame.header.flag? = some .fragment) (next : Continues frame.header slot pending) :
    Pushed frame now slot (.buffered (pending.audio ++ frame.payload).length)
      (some ⟨.buffering (pending.extend frame.header.sequence frame.payload), now⟩)
  | completed {slot : Option Slot} {pending : Pending} (valid : frame.valid = true)
    (flag : frame.header.flag? = some .last) (next : Continues frame.header slot pending) :
    Pushed frame now slot
      (.complete (pending.extend frame.header.sequence frame.payload).toUtterance) none
  | gapFragment {pending : Pending} {since : Nat} (valid : frame.valid = true)
    (flag : frame.header.flag? = some .fragment)
    (gap : pending.nextSequence ≠ frame.header.sequence) :
    Pushed frame now (some ⟨.buffering pending, since⟩)
      (.rejected (.sequenceGap pending.nextSequence frame.header.sequence))
      (some ⟨.discarding, now⟩)
  | gapLast {pending : Pending} {since : Nat} (valid : frame.valid = true)
    (flag : frame.header.flag? = some .last)
    (gap : pending.nextSequence ≠ frame.header.sequence) :
    Pushed frame now (some ⟨.buffering pending, since⟩)
      (.rejected (.sequenceGap pending.nextSequence frame.header.sequence)) none
  | resyncing {since : Nat} (valid : frame.valid = true)
    (flag : frame.header.flag? = some .fragment) :
    Pushed frame now (some ⟨.discarding, since⟩) (.rejected .resyncing) (some ⟨.discarding, now⟩)
  | resynced {since : Nat} (valid : frame.valid = true)
    (flag : frame.header.flag? = some .last) :
    Pushed frame now (some ⟨.discarding, since⟩) (.rejected .resyncing) none

theorem pushed_fragment (slot : Option Slot) {frame : VerifiedFrame} (now : Nat)
    (valid : frame.valid = true) (flag : frame.header.flag? = some .fragment) :
    Pushed frame now slot (takeFragment slot false frame.header frame.payload now).1
      (takeFragment slot false frame.header frame.payload now).2 := by
  rcases slot with _ | ⟨pending | _, since⟩
  · exact .buffered valid flag .opens
  · by_cases next : pending.nextSequence = frame.header.sequence
    · simp only [takeFragment, Option.map_some, next, if_true]
      exact .buffered valid flag (.next next)
    · simp only [takeFragment, Option.map_some, next, if_false]
      exact .gapFragment valid flag next
  · exact .resyncing valid flag

theorem pushed_last (slot : Option Slot) {frame : VerifiedFrame} (now : Nat)
    (valid : frame.valid = true) (flag : frame.header.flag? = some .last) :
    Pushed frame now slot (takeFragment slot true frame.header frame.payload now).1
      (takeFragment slot true frame.header frame.payload now).2 := by
  rcases slot with _ | ⟨pending | _, since⟩
  · exact .completed valid flag .opens
  · by_cases next : pending.nextSequence = frame.header.sequence
    · simp only [takeFragment, Option.map_some, next, if_true]
      exact .completed valid flag (.next next)
    · simp only [takeFragment, Option.map_some, next, if_false]
      exact .gapLast valid flag next
  · exact .resynced valid flag

theorem pushed (slot : Option Slot) (frame : VerifiedFrame) (now : Nat) :
    Pushed frame now slot (push slot frame now).1 (push slot frame now).2 := by
  unfold push
  split
  · rename_i valid
    split
    · rename_i flag
      exact .unknownFlag valid flag
    · rename_i flag
      exact .full valid flag
    · rename_i flag
      exact pushed_fragment slot now valid flag
    · rename_i flag
      exact pushed_last slot now valid flag
  · rename_i valid
    exact .corrupted (Bool.eq_false_iff.2 valid)

theorem Pushed.eq_push {slot after : Option Slot} {frame : VerifiedFrame} {now : Nat}
    {event : AssemblyEvent} (h : Pushed frame now slot event after) :
    push slot frame now = (event, after) := by
  cases h with
  | corrupted valid => simp [push, valid]
  | unknownFlag valid flag => simp [push, valid, flag]
  | full valid flag => simp [push, valid, flag]
  | buffered valid flag next =>
    cases next with
    | opens => simp [push, valid, flag, takeFragment, join, Pending.start, Pending.extend]
    | next h => simp [push, valid, flag, takeFragment, join, h, Pending.extend]
  | completed valid flag next =>
    cases next with
    | opens => simp [push, valid, flag, takeFragment, join]
    | next h => simp [push, valid, flag, takeFragment, join, h]
  | gapFragment valid flag gap => simp [push, valid, flag, takeFragment, gap, afterDamage]
  | gapLast valid flag gap => simp [push, valid, flag, takeFragment, gap, afterDamage]
  | resyncing valid flag => simp [push, valid, flag, takeFragment, afterDamage]
  | resynced valid flag => simp [push, valid, flag, takeFragment, afterDamage]

theorem push_end (slot : Option Slot) {frame : VerifiedFrame} (now : Nat) (ends : frame.IsEnd) :
    (push slot frame now).2 = none := by
  have taken := pushed slot frame now
  obtain ⟨valid, flag⟩ := ends
  generalize (push slot frame now).1 = event at taken
  generalize (push slot frame now).2 = after at taken ⊢
  cases taken with
  | corrupted damaged => simp [valid] at damaged
  | full | completed | gapLast | resynced => rfl
  | unknownFlag _ other | buffered _ other | gapFragment _ other | resyncing _ other =>
    simp [other] at flag

end Slot

end VoiceBus
