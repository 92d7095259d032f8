import VoiceBus.Proofs.Assembler.Run
import VoiceBus.Proofs.Assembler.Utterance

/-! # A run seen by one device

Frames of other devices do not touch the slot of a device. Neither does an eviction that does not
forget it, as one that comes in time. What is left of the run are the frames of the device itself.
-/

namespace VoiceBus

namespace Slot

theorem lastSeen_push {slot : Option Slot} {frame : VerifiedFrame} {now : Nat} {after : Slot}
    (h : (push slot frame now).2 = some after)
    (touches : frame.valid = true → frame.header.flag? ≠ none) : after.lastSeen = now := by
  have taken := pushed slot frame now
  rw [h] at taken
  generalize (push slot frame now).1 = event at taken
  cases taken with
  | corrupted valid => rfl
  | unknownFlag valid flag => exact absurd flag (touches valid)
  | buffered valid flag next => rfl
  | gapFragment valid flag gap => rfl
  | resyncing valid flag => rfl

end Slot

namespace Assembler

variable {start : Assembler} {inputs : List Input} {device : String}

/-- The frames that inputs bring for a device, and when. -/
def arrivals (device : String) : List Input → List (VerifiedFrame × Nat)
  | [] => []
  | .push other frame now :: rest =>
    if other = device then (frame, now) :: arrivals device rest else arrivals device rest
  | .evict _ :: rest => arrivals device rest

/-- What becomes of the frames of a device in a run. -/
def eventsOf (device : String) (start : Assembler) : List Input → List AssemblyEvent
  | [] => []
  | .push other frame now :: rest =>
    if other = device then
      (start.push other frame now).1 :: (start.push other frame now).2.eventsOf device rest
    else (start.push other frame now).2.eventsOf device rest
  | .evict now :: rest => (start.evict now).2.eventsOf device rest

/-- Nothing is evicted later than the expiry after the latest frame of the device. -/
def InTime (expiry : Nat) (device : String) : Option Nat → List Input → Prop
  | _, [] => True
  | latest, .push other _ now :: rest =>
    InTime expiry device (if other = device then some now else latest) rest
  | latest, .evict now :: rest =>
    (∀ time ∈ latest, now ≤ time + expiry) ∧ InTime expiry device latest rest

instance decidableInTime (expiry : Nat) (device : String) :
    (latest : Option Nat) → (inputs : List Input) → Decidable (InTime expiry device latest inputs)
  | _, [] => isTrue trivial
  | _, .push _ _ _ :: rest => decidableInTime expiry device _ rest
  | latest, .evict _ :: rest =>
    have := decidableInTime expiry device latest rest
    inferInstanceAs (Decidable (_ ∧ _))

theorem onSlot_evict {expiry now : Nat} {slot : Option Slot}
    (soon : ∀ known ∈ slot, now ≤ known.lastSeen + expiry) :
    (Input.evict now).onSlot expiry device slot = slot := by
  cases slot with
  | none => rfl
  | some known =>
    have recent := soon known rfl
    have kept : known.isStale expiry now = false := by
      unfold Slot.isStale
      rw [decide_eq_false_iff_not]
      omega
    simp [Input.onSlot, kept]

/-- The input at `k` is an eviction that forgets the device. -/
def EvictedAt (start : Assembler) (inputs : List Input) (device : String) (k : Nat) : Prop :=
  (∃ now, inputs[k]? = some (.evict now)) ∧ start.slotAt inputs device k ≠ none ∧
    start.slotAt inputs device (k + 1) = none

theorem evictedAt_cons_succ {input : Input} {k : Nat} :
    EvictedAt start (input :: inputs) device (k + 1) ↔
      EvictedAt (start.step input) inputs device k := Iff.rfl

theorem get?_step_evict {now : Nat} (kept : ¬ EvictedAt start (.evict now :: inputs) device 0) :
    (start.step (.evict now)).slots.get? device = start.slots.get? device := by
  have step := get?_step start (.evict now) device
  cases after : (start.step (.evict now)).slots.get? device with
  | none =>
    exact Classical.byContradiction fun known => kept ⟨⟨now, rfl⟩, Ne.symm known, after⟩
  | some slot =>
    rw [after] at step
    exact (Option.filter_eq_some_iff.1 step.symm).1.symm

theorem seen_unless_evicted (kept : ∀ k, ¬ EvictedAt start inputs device k) :
    (start.after inputs).slots.get? device =
        Slot.afterAll (start.slots.get? device) (arrivals device inputs) ∧
      start.eventsOf device inputs =
        Slot.events (start.slots.get? device) (arrivals device inputs) := by
  induction inputs generalizing start with
  | nil => exact ⟨rfl, rfl⟩
  | cons input rest ih =>
    have later := ih fun k evicted => kept (k + 1) (evictedAt_cons_succ.2 evicted)
    cases input with
    | evict now =>
      rw [get?_step_evict (kept 0)] at later
      exact later
    | push other frame now =>
      have step := get?_step start (.push other frame now) device
      rw [after_cons, arrivals, eventsOf]
      by_cases same : other = device
      · subst same
        rw [Input.onSlot, if_pos rfl] at step
        rw [step] at later
        rw [if_pos rfl, if_pos rfl, later.1]
        exact ⟨rfl, congrArg _ later.2⟩
      · rw [Input.onSlot, if_neg same] at step
        rw [step] at later
        rw [if_neg same, if_neg same]
        exact later

theorem InTime.not_evictedAt {latest : Option Nat}
    (inTime : InTime start.expiry.total device latest inputs)
    (recent : ∀ slot ∈ start.slots.get? device, latest = some slot.lastSeen)
    (touches : ∀ arrival ∈ arrivals device inputs,
      arrival.1.valid = true → arrival.1.header.flag? ≠ none) (k : Nat) :
    ¬ EvictedAt start inputs device k := by
  -- the latest frame of the device is the latest that its slot has seen
  induction inputs generalizing start latest k with
  | nil =>
    rintro ⟨⟨now, here⟩, -⟩
    cases here
  | cons input rest ih =>
    have step := get?_step start input device
    rw [← expiry_step start input] at inTime step
    cases input with
    | evict now =>
      rw [onSlot_evict fun known here => inTime.1 _ (recent known here)] at step
      cases k with
      | zero =>
        rintro ⟨-, known, gone⟩
        exact known (step.symm.trans gone)
      | succ k =>
        rw [← step] at recent
        exact ih inTime.2 recent touches k
    | push other frame now =>
      cases k with
      | zero =>
        rintro ⟨⟨now', here⟩, -⟩
        cases here
      | succ k =>
        unfold arrivals at touches
        unfold InTime at inTime
        refine ih inTime ?_ ?_ k
        · intro slot here
          rw [step] at here
          by_cases same : other = device
          · rw [Input.onSlot, if_pos same] at here
            rw [if_pos same] at touches ⊢
            rw [Slot.lastSeen_push here (List.forall_mem_cons.1 touches).1]
          · rw [Input.onSlot, if_neg same] at here
            rw [if_neg same]
            exact recent slot here
        · split at touches
          · exact (List.forall_mem_cons.1 touches).2
          · exact touches

theorem seen_by_device {latest : Option Nat}
    (recent : ∀ slot ∈ start.slots.get? device, latest = some slot.lastSeen)
    (inTime : InTime start.expiry.total device latest inputs)
    (touches : ∀ arrival ∈ arrivals device inputs,
      arrival.1.valid = true → arrival.1.header.flag? ≠ none) :
    (start.after inputs).slots.get? device =
        Slot.afterAll (start.slots.get? device) (arrivals device inputs) ∧
      start.eventsOf device inputs =
        Slot.events (start.slots.get? device) (arrivals device inputs) :=
  seen_unless_evicted (inTime.not_evictedAt recent touches)

end Assembler

end VoiceBus
