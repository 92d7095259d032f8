import VoiceBus.Proofs.Assembler.Device
import VoiceBus.Proofs.Table

/-! # Devices do not interfere

A run looks to a device like the run in which it is alone: the frames of the others can be left
out, the evictions stay. What is counted over all devices is the sum of what is counted in the runs
of the single devices.
-/

namespace VoiceBus.Assembler

variable {left right : Assembler} {device : String}

/-- Whether a device can tell that the input came: it is a frame of the device or an eviction. -/
def Input.concerns (device : String) : Input → Bool
  | .push other _ _ => other = device
  | .evict _ => true

/-- The inputs without the frames of other devices. -/
def only (device : String) (inputs : List Input) : List Input := inputs.filter (·.concerns device)

/-- Two assemblers that a device cannot tell apart. -/
structure Agrees (device : String) (left right : Assembler) : Prop where
  expiry : left.expiry = right.expiry
  slot : left.slots.get? device = right.slots.get? device

/-! ## Two runs -/

theorem only_cons (device : String) (input : Input) (inputs : List Input) :
    only device (input :: inputs) =
      if input.concerns device then input :: only device inputs else only device inputs :=
  List.filter_cons

theorem onSlot_of_not_concerns {input : Input} (foreign : ¬ input.concerns device)
    (expiry : Nat) (slot : Option Slot) : input.onSlot expiry device slot = slot := by
  cases input with
  | push other frame now => exact if_neg fun same => foreign (decide_eq_true same)
  | evict now => exact absurd rfl foreign

namespace Agrees

theorem step (h : Agrees device left right) (input : Input) :
    Agrees device (left.step input) (right.step input) where
  expiry := by rw [expiry_step, expiry_step, h.expiry]
  slot := by rw [get?_step, get?_step, h.expiry, h.slot]

theorem step_left (h : Agrees device left right) {input : Input}
    (foreign : ¬ input.concerns device) : Agrees device (left.step input) right where
  expiry := by rw [expiry_step, h.expiry]
  slot := by rw [get?_step, onSlot_of_not_concerns foreign, h.slot]

theorem after (h : Agrees device left right) (inputs : List Input) :
    Agrees device (left.after inputs) (right.after (only device inputs)) := by
  induction inputs generalizing left right with
  | nil => exact h
  | cons input rest ih =>
    rw [only_cons]
    split
    · exact ih (h.step input)
    next foreign => exact ih (h.step_left foreign)

theorem event (h : Agrees device left right) (frame : VerifiedFrame) (now : Nat) :
    (left.push device frame now).1 = (right.push device frame now).1 := by
  unfold push
  rw [h.slot]

theorem eventsOf (h : Agrees device left right) (inputs : List Input) :
    left.eventsOf device inputs = right.eventsOf device (only device inputs) := by
  induction inputs generalizing left right with
  | nil => rfl
  | cons input rest ih =>
    rw [only_cons]
    cases input with
    | evict now => exact ih (h.step (.evict now))
    | push other frame now =>
      by_cases same : other = device
      · subst same
        have own : (Input.push other frame now).concerns other := decide_eq_true rfl
        rw [if_pos own, Assembler.eventsOf, Assembler.eventsOf, if_pos rfl, if_pos rfl, h.event]
        exact congrArg _ (ih (h.step (.push other frame now)))
      · have foreign : ¬ (Input.push other frame now).concerns device := by
          simpa [Input.concerns] using same
        rw [if_neg foreign, Assembler.eventsOf, if_neg same]
        exact ih (h.step_left foreign)

theorem isResyncing (h : Agrees device left right) :
    left.isResyncing device = right.isResyncing device := by
  unfold Assembler.isResyncing
  rw [h.slot]

end Agrees

theorem agrees_only (expiry : Duration) (device : String) (inputs : List Input) :
    Agrees device ((new expiry).after inputs) ((new expiry).after (only device inputs)) :=
  Agrees.after ⟨rfl, rfl⟩ inputs

/-! ## Sums over devices -/

theorem get?_after_eq_none {start : Assembler} {inputs : List Input}
    (unknown : start.slots.get? device = none)
    (absent : ∀ frame now, .push device frame now ∉ inputs) :
    (start.after inputs).slots.get? device = none := by
  induction inputs generalizing start with
  | nil => exact unknown
  | cons input rest ih =>
    refine ih ?_ fun frame now later => absent frame now (List.mem_cons_of_mem _ later)
    rw [get?_step, unknown]
    cases input with
    | push other frame now =>
      refine if_neg ?_
      rintro rfl
      exact absent frame now (List.mem_cons_self ..)
    | evict now => rfl

theorem eq_of_push_mem_only {inputs : List Input} {other : String} {frame : VerifiedFrame}
    {now : Nat} (h : .push other frame now ∈ only device inputs) : other = device :=
  of_decide_eq_true (List.mem_filter.1 h).2

theorem count_eq_sum_only (expiry : Duration) {inputs : List Input} {devices : Finset String}
    (within : ∀ device frame now, .push device frame now ∈ inputs → device ∈ devices)
    (test : Slot → Bool) :
    ((new expiry).after inputs).slots.count (fun _ => test) =
      ∑ device ∈ devices, ((new expiry).after (only device inputs)).slots.count fun _ => test := by
  rw [Table.count_eq_sum _ devices]
  · refine Finset.sum_congr rfl fun device _ => ?_
    rw [(agrees_only expiry device inputs).slot, Table.count_eq_sum _ {device},
      Finset.sum_singleton]
    intro other foreign
    refine get?_after_eq_none rfl fun frame now member => ?_
    exact foreign (Finset.mem_singleton.2 (eq_of_push_mem_only member))
  · intro device outside
    exact get?_after_eq_none rfl fun frame now member => outside (within device frame now member)

theorem evict_eq_count (assembler : Assembler) (now : Nat) :
    (assembler.evict now).1 =
      assembler.slots.count fun _ => Slot.isStale assembler.expiry.total now := by
  have left := assembler.slots.size_sub_size_filter fun _ slot => !assembler.isStale now slot
  simp only [Bool.not_not] at left
  exact left

/-- At any point of any run a device is as if it had been alone on the bus. -/
theorem devices_separate (expiry : Duration) (before : List Input) :
    (∀ device,
      (new expiry).eventsOf device before = (new expiry).eventsOf device (only device before) ∧
      ((new expiry).after before).isResyncing device =
        ((new expiry).after (only device before)).isResyncing device ∧
      ∀ later, ((new expiry).after before).eventsOf device later =
        ((new expiry).after (only device before)).eventsOf device (only device later)) ∧
    ∀ devices : Finset String,
      (∀ device frame now, .push device frame now ∈ before → device ∈ devices) →
      ((new expiry).after before).pending =
        ∑ device ∈ devices, ((new expiry).after (only device before)).pending ∧
      ∀ now, (((new expiry).after before).evict now).1 =
        ∑ device ∈ devices, (((new expiry).after (only device before)).evict now).1 := by
  refine ⟨fun device => ?_, fun devices within => ⟨?_, fun now => ?_⟩⟩
  · have agrees := agrees_only expiry device before
    have start : Agrees device (new expiry) (new expiry) := ⟨rfl, rfl⟩
    exact ⟨start.eventsOf before, agrees.isResyncing, agrees.eventsOf⟩
  · exact count_eq_sum_only expiry within Slot.isBuffering
  · simp only [evict_eq_count, expiry_after]
    exact count_eq_sum_only expiry within _

/-- One device is damaged and idle, two are in the middle of an utterance. -/
def crossedRun : List Input :=
  [.push "A" ⟨{ frameFlag := 2, sequence := 5 }, [1], true⟩ 0,
    .push "B" ⟨{ frameFlag := 2, sequence := 65535 }, [2], true⟩ 100,
    .push "A" ⟨{ frameFlag := 2, sequence := 7 }, [3], true⟩ 200,
    .push "C" ⟨{ frameFlag := 2 }, [4], true⟩ 1000000100,
    .evict 1000000100,
    .push "B" ⟨{ frameFlag := 2 }, [5], true⟩ 1000000100]

theorem crossedRun_separates :
    (∀ device frame now, .push device frame now ∈ crossedRun →
      device ∈ ({"A", "B", "C"} : Finset String)) ∧
    2 = ∑ device ∈ {"A", "B", "C"},
      ((new (.ofSeconds 1)).after (only device crossedRun)).pending ∧
    1 = ∑ device ∈ {"A", "B", "C"},
      (((new (.ofSeconds 1)).after (only device crossedRun)).evict 1000000201).1 := by
  have within : ∀ device frame now, .push device frame now ∈ crossedRun →
      device ∈ ({"A", "B", "C"} : Finset String) := by
    intro device frame now member
    simp only [crossedRun, List.mem_cons, Input.push.injEq, List.not_mem_nil] at member
    grind
  obtain ⟨pending, evicted⟩ := (devices_separate (.ofSeconds 1) crossedRun).2 _ within
  refine ⟨within, ?_, ?_⟩
  · rw [← pending]
    decide +kernel
  · rw [← evicted]
    decide +kernel

end VoiceBus.Assembler
