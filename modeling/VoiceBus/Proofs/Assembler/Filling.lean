import VoiceBus.Proofs.Assembler.Device
import VoiceBus.Proofs.Assembler.Exits

/-!
# Slots that fill

What a slot holds while it fills began with a fragment, and the number that must come next is that
of this fragment and one more for each frame joined since. As many bytes are held as was answered
last. Every push keeps this, so it holds throughout a run.
-/

namespace VoiceBus

/-- The bytes that are held after a frame that was kept. -/
def AssemblyEvent.held? : AssemblyEvent → Option Nat
  | buffered bytes => some bytes
  | complete _ | rejected _ => none

/-- What is held began with a fragment and holds together; `held` is what was answered last of the
bytes that are held. -/
structure Pending.Fills (pending : Pending) (held : Option Nat) : Prop where
  begun : 1 ≤ pending.frames
  fragment : pending.header.flag? = some .fragment
  next : pending.nextSequence.toNat = (pending.header.sequence.toNat + pending.frames) % 65536
  bytes : held = some pending.audio.length

theorem Pending.fills_start {header : Header} (flag : header.flag? = some .fragment)
    (payload : Bytes) :
    ((Pending.start header).extend header.sequence payload).Fills (some payload.length) where
  begun := Nat.le_refl 1
  fragment := flag
  next := UInt16.toNat_add header.sequence 1
  bytes := rfl

theorem Pending.Fills.extend {pending : Pending} {held : Option Nat} (fills : pending.Fills held)
    (payload : Bytes) :
    (pending.extend pending.nextSequence payload).Fills
      (some (pending.audio ++ payload).length) where
  begun := Nat.le_add_left 1 pending.frames
  fragment := fills.fragment
  next := by
    have number := fills.next
    have one : (1 : UInt16).toNat = 1 := rfl
    simp only [Pending.extend, UInt16.toNat_add, one]
    omega
  bytes := rfl

namespace Slot

/-- If the slot is filling, what it holds is as it should be. -/
def Sound (held : Option Nat) (slot : Option Slot) : Prop :=
  ∀ pending since, slot = some ⟨.buffering pending, since⟩ → pending.Fills held

theorem Sound.push {held : Option Nat} {slot : Option Slot} (sound : Sound held slot)
    (frame : VerifiedFrame) (now : Nat) :
    Sound ((push slot frame now).1.held?.or held) (push slot frame now).2 := by
  have taken := pushed slot frame now
  generalize (Slot.push slot frame now).1 = event at taken ⊢
  generalize (Slot.push slot frame now).2 = after at taken ⊢
  cases taken with
  | corrupted valid => nofun
  | unknownFlag valid flag => exact sound
  | full valid flag => nofun
  | @buffered _ pending valid flag next =>
    rintro _ _ ⟨⟩
    cases next with
    | opens => exact Pending.fills_start flag frame.payload
    | next number =>
      rw [← number]
      exact (sound pending _ rfl).extend frame.payload
  | completed valid flag next => nofun
  | gapFragment valid flag gap => nofun
  | gapLast valid flag gap => nofun
  | resyncing valid flag => nofun
  | resynced valid flag => nofun

theorem Sound.filter {held : Option Nat} {slot : Option Slot} (sound : Sound held slot)
    (keep : Slot → Bool) : Sound held (slot.filter keep) :=
  fun pending since here => sound pending since (Option.filter_eq_some_iff.1 here).1

theorem push_last_ne_buffered (slot : Option Slot) {frame : VerifiedFrame} (now bytes : Nat)
    (flag : frame.header.flag? = some .last) :
    (push slot frame now).1 ≠ .buffered bytes := by
  have taken := pushed slot frame now
  generalize (push slot frame now).1 = event at taken ⊢
  generalize (push slot frame now).2 = after at taken
  rintro rfl
  cases taken with
  | buffered _ other => simp [flag] at other

end Slot

namespace Assembler

variable {start : Assembler} {device : String}

/-- What was answered last of the bytes that are held for a device. -/
def latestHeld? (start : Assembler) (device : String) (inputs : List Input) : Option Nat :=
  ((start.eventsOf device inputs).filterMap AssemblyEvent.held?).getLast?

theorem latestHeld?_push (start : Assembler) (device : String) (frame : VerifiedFrame) (now : Nat)
    (rest : List Input) (held : Option Nat) :
    (start.latestHeld? device (.push device frame now :: rest)).or held =
      ((start.step (.push device frame now)).latestHeld? device rest).or
        ((start.push device frame now).1.held?.or held) := by
  unfold latestHeld?
  rw [eventsOf, if_pos rfl, filterMap_cons_toList, List.getLast?_append, Option.or_assoc]
  cases (start.push device frame now).1.held? <;> rfl

theorem sound_after {held : Option Nat} (sound : Slot.Sound held (start.slots.get? device))
    (inputs : List Input) :
    Slot.Sound ((start.latestHeld? device inputs).or held)
      ((start.after inputs).slots.get? device) := by
  -- `held` is what was answered before, for a run that answers nothing of the sort
  induction inputs generalizing start held with
  | nil => exact sound
  | cons input rest ih =>
    have step := get?_step start input device
    cases input with
    | evict now => exact ih (step ▸ sound.filter _)
    | push other frame now =>
      by_cases own : other = device
      · subst own
        rw [Input.onSlot, if_pos rfl] at step
        rw [latestHeld?_push]
        exact ih (step ▸ sound.push frame now)
      · rw [Input.onSlot, if_neg own] at step
        have answers : start.latestHeld? device (.push other frame now :: rest) =
            (start.step (.push other frame now)).latestHeld? device rest := by
          rw [latestHeld?, eventsOf, if_neg own]
          rfl
        rw [answers]
        exact ih (step ▸ sound)

/-- What a slot holds is as it should be in every run, and no push leaves by a fallback. -/
theorem slots_sound (expiry : Duration) (inputs : List Input) :
    (∀ device pending since,
      ((new expiry).after inputs).slots.get? device = some ⟨.buffering pending, since⟩ →
        pending.Fills ((new expiry).latestHeld? device inputs)) ∧
    ∀ (before : Assembler) device frame now,
      (Passage.push before.slots device frame now).exit.isFallback = false ∧
      (Passage.push before.slots device frame now).event = (before.push device frame now).1 ∧
      (∀ other, (Passage.push before.slots device frame now).slots.get? other =
        (before.push device frame now).2.slots.get? other) ∧
      (frame.header.flag? = some .last →
        ∀ bytes, (before.push device frame now).1 ≠ .buffered bytes) := by
  refine ⟨fun device pending since here => ?_, fun before device frame now => ?_⟩
  · have empty : Slot.Sound none ((new expiry).slots.get? device) := nofun
    simpa using sound_after empty inputs pending since here
  · have does := Passage.does_push before.slots device frame now
    exact ⟨does.exit, does.event, does.slots,
      fun flag bytes => Slot.push_last_ne_buffered _ now bytes flag⟩

/-- A device resynchronises, and its next utterance wraps its numbers and meets a frame without a
flag and an eviction. -/
def wrappingRun : List Input :=
  [.push "A" ⟨{ frameFlag := 2, sequence := 65533 }, [8], false⟩ 0,
    .push "A" ⟨{ frameFlag := 3, sequence := 65534 }, [9], true⟩ 1,
    .push "A" ⟨{ frameFlag := 2, sequence := 65535 }, [1, 2], true⟩ 2,
    .push "A" ⟨{ sequence := 7 }, [7], true⟩ 3,
    .evict 1000000002,
    .push "A" ⟨{ frameFlag := 2, sequence := 0 }, [3], true⟩ 4]

theorem wrappingRun_fills :
    ((new (.ofSeconds 1)).after wrappingRun).slots.get? "A" = some
      ⟨.buffering ⟨{ frameFlag := 2, sequence := 65535 }, [1, 2, 3], 2, 1⟩, 4⟩ ∧
    (⟨{ frameFlag := 2, sequence := 65535 }, [1, 2, 3], 2, 1⟩ : Pending).Fills
      ((new (.ofSeconds 1)).latestHeld? "A" wrappingRun) ∧
    (new (.ofSeconds 1)).latestHeld? "A" wrappingRun = some 3 ∧
    (Passage.push ((new (.ofSeconds 1)).after wrappingRun).slots "A"
      ⟨{ frameFlag := 3, sequence := 1 }, [4], true⟩ 5).exit = .completed ∧
    ∀ bytes, (((new (.ofSeconds 1)).after wrappingRun).push "A"
      ⟨{ frameFlag := 3, sequence := 1 }, [4], true⟩ 5).1 ≠ .buffered bytes := by
  obtain ⟨fills, leaves⟩ := slots_sound (.ofSeconds 1) wrappingRun
  have held : ((new (.ofSeconds 1)).after wrappingRun).slots.get? "A" = some
      ⟨.buffering ⟨{ frameFlag := 2, sequence := 65535 }, [1, 2, 3], 2, 1⟩, 4⟩ := by
    decide +kernel
  exact ⟨held, fills "A" _ _ held, by decide +kernel, by decide +kernel,
    (leaves _ "A" ⟨{ frameFlag := 3, sequence := 1 }, [4], true⟩ 5).2.2.2 (by decide)⟩

end Assembler

end VoiceBus
