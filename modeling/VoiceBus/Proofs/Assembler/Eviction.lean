import Mathlib.Algebra.Ring.Nat
import Mathlib.Data.List.Induction
import VoiceBus.Proofs.Assembler.Separation

/-!
# Forgetting idle devices

A device is forgotten when the latest of its frames that counts is longer ago than the expiry. That
takes the device and changes no other, so evictions one after the other are, in any order, the one
eviction at the latest of their times.
-/

namespace VoiceBus

/-- Whether the frame counts as a sign of life: any but an intact one without a flag. -/
def VerifiedFrame.touches (frame : VerifiedFrame) : Bool :=
  !frame.valid || frame.header.flag?.isSome

theorem VerifiedFrame.touches_iff (frame : VerifiedFrame) :
    frame.touches = true ↔ (frame.valid = true → frame.header.flag? ≠ none) := by
  unfold touches
  rw [Bool.or_eq_true, Bool.not_eq_true', Option.isSome_iff_ne_none, ← Bool.not_eq_true,
    ← imp_iff_not_or]

theorem Slot.push_of_not_touches (slot : Option Slot) {frame : VerifiedFrame} (now : Nat)
    (idle : ¬ frame.touches = true) : (push slot frame now).2 = slot := by
  rw [frame.touches_iff, Classical.not_imp, Classical.not_not] at idle
  rw [(Pushed.unknownFlag idle.1 idle.2).eq_push]

namespace Assembler

/-- When the input brings a frame of the device that counts. -/
def Input.touch? (device : String) : Input → Option Nat
  | .push other frame now => if other = device ∧ frame.touches then some now else none
  | .evict _ => none

/-- The time of the latest frame of the device that counts. -/
def latestTouch? (device : String) (inputs : List Input) : Option Nat :=
  (inputs.filterMap (Input.touch? device)).getLast?

def Knows (assembler : Assembler) (device : String) : Prop :=
  assembler.slots.get? device ≠ none

/-- What an eviction that reports `count` makes of the state that a run has led to. -/
structure ForgetsIdle (expiry : Duration) (inputs : List Input) (now : Nat)
    (before after : Assembler) (count : Nat) : Prop where
  /-- A device is forgotten just if the latest of its frames that counts is longer ago than the
  expiry. -/
  forgotten : ∀ device, before.Knows device → ∃ latest, latestTouch? device inputs = some latest ∧
    (¬ after.Knows device ↔ (expiry.total : Int) < max 0 ((now : Int) - latest))
  /-- Nothing changes for the others. -/
  kept : ∀ device, after.Knows device → after.slots.get? device = before.slots.get? device
  counted : ∃ dropped : Finset String,
    (∀ device, device ∈ dropped ↔ before.Knows device ∧ ¬ after.Knows device) ∧
    count = dropped.card
  balance : count + (after.pending + after.resyncing.length) =
    before.pending + before.resyncing.length

/-- How many devices each of some evictions forgets. -/
def evictions (assembler : Assembler) : List Nat → List Nat
  | [] => []
  | now :: rest => (assembler.evict now).1 :: (assembler.evict now).2.evictions rest

variable {device : String}

/-! ## The latest sign of a device -/

theorem latestTouch?_concat (device : String) (inputs : List Input) (input : Input) :
    latestTouch? device (inputs ++ [input]) =
      (input.touch? device).or (latestTouch? device inputs) := by
  unfold latestTouch?
  rw [List.filterMap_append, List.getLast?_append]
  cases touch : input.touch? device <;> simp [touch]

theorem latestTouch?_of_known {expiry : Duration} {inputs : List Input} {slot : Slot}
    (known : ((new expiry).after inputs).slots.get? device = some slot) :
    latestTouch? device inputs = some slot.lastSeen := by
  -- from the end of the run: its last input writes the time into the slot, or keeps the slot
  induction inputs using List.reverseRecOn generalizing slot with
  | nil => cases known
  | append_singleton inputs input ih =>
    rw [after_append, after_cons, after_nil, get?_step] at known
    rw [latestTouch?_concat]
    cases input with
    | evict now => exact ih (Option.filter_eq_some_iff.1 known).1
    | push other frame now =>
      by_cases own : other = device
      · rw [Input.onSlot, if_pos own] at known
        by_cases touches : frame.touches = true
        · rw [Input.touch?, if_pos ⟨own, touches⟩,
            Slot.lastSeen_push known (frame.touches_iff.1 touches)]
          rfl
        · rw [Slot.push_of_not_touches _ now touches] at known
          rw [Input.touch?, if_neg fun both => touches both.2]
          exact ih known
      · rw [Input.onSlot, if_neg own] at known
        rw [Input.touch?, if_neg fun both => own both.1]
        exact ih known

/-! ## One eviction -/

theorem get?_evict_of_known {assembler : Assembler} {slot : Slot}
    (known : assembler.slots.get? device = some slot) (now : Nat) :
    (assembler.evict now).2.slots.get? device =
      if assembler.isStale now slot then none else some slot := by
  rw [get?_evict, known, Option.filter_some]
  cases assembler.isStale now slot <;> rfl

theorem evict_add_size (assembler : Assembler) (now : Nat) :
    (assembler.evict now).1 + (assembler.evict now).2.slots.size = assembler.slots.size :=
  Nat.sub_add_cancel (List.length_filter_le _ _)

theorem length_resyncing (assembler : Assembler) :
    assembler.resyncing.length = assembler.slots.count fun _ slot => slot.isDiscarding := by
  unfold resyncing Table.keys Table.count
  rw [List.length_mergeSort, ← List.countP_eq_length_filter, List.countP_map]
  apply List.countP_congr
  rintro ⟨device, slot⟩ member
  simp [isResyncing, Table.get?_of_mem member]

theorem pending_add_resyncing (assembler : Assembler) :
    assembler.pending + assembler.resyncing.length = assembler.slots.size := by
  rw [length_resyncing]
  exact assembler.slots.count_add_count_not _

theorem not_knows_evict_iff {assembler : Assembler} {slot : Slot}
    (known : assembler.slots.get? device = some slot) (now : Nat) :
    ¬ (assembler.evict now).2.Knows device ↔ assembler.isStale now slot = true := by
  rw [Knows, Classical.not_not, get?_evict_of_known known]
  cases assembler.isStale now slot <;> simp

theorem get?_evict_of_knows {assembler : Assembler} {now : Nat}
    (known : (assembler.evict now).2.Knows device) :
    (assembler.evict now).2.slots.get? device = assembler.slots.get? device := by
  obtain ⟨slot, found⟩ := Option.ne_none_iff_exists'.1 known
  rw [found]
  rw [get?_evict] at found
  exact (Option.filter_eq_some_iff.1 found).1.symm

theorem exists_card_eq_evict (assembler : Assembler) (now : Nat) :
    ∃ dropped : Finset String,
      (∀ device, device ∈ dropped ↔
        assembler.Knows device ∧ ¬ (assembler.evict now).2.Knows device) ∧
      (assembler.evict now).1 = dropped.card := by
  obtain ⟨dropped, among, card⟩ :=
    assembler.slots.exists_card_eq_count fun _ => Slot.isStale assembler.expiry.total now
  refine ⟨dropped, fun device => (among device).trans ?_,
    (evict_eq_count assembler now).trans card.symm⟩
  cases found : assembler.slots.get? device with
  | none => exact iff_of_false Bool.false_ne_true fun both => both.1 found
  | some slot =>
    have known : assembler.Knows device := Option.ne_none_iff_exists'.2 ⟨slot, found⟩
    rw [not_knows_evict_iff found, and_iff_right known, Option.any_some]
    exact Iff.rfl

theorem forgetsIdle_evict (expiry : Duration) (inputs : List Input) (now : Nat) :
    ForgetsIdle expiry inputs now ((new expiry).after inputs)
      (((new expiry).after inputs).evict now).2 (((new expiry).after inputs).evict now).1 where
  forgotten := by
    intro device known
    obtain ⟨slot, found⟩ := Option.ne_none_iff_exists'.1 known
    refine ⟨slot.lastSeen, latestTouch?_of_known found, ?_⟩
    rw [not_knows_evict_iff found, isStale, Slot.isStale, decide_eq_true_iff, expiry_after]
    change expiry.total < now - slot.lastSeen ↔ _
    omega
  kept _ known := get?_evict_of_knows known
  counted := exists_card_eq_evict _ now
  balance := by
    rw [pending_add_resyncing, pending_add_resyncing, evict_add_size]

/-! ## Evictions in a row -/

theorem isStale_mono {assembler : Assembler} {earlier later : Nat} (h : earlier ≤ later)
    {slot : Slot} (stale : assembler.isStale earlier slot = true) :
    assembler.isStale later slot = true := by
  unfold isStale Slot.isStale at stale ⊢
  rw [decide_eq_true_iff] at stale ⊢
  omega

theorem after_evictions (assembler : Assembler) (times : List Nat) :
    assembler.after (times.map .evict) = { assembler with
      slots := assembler.slots.filter fun _ slot =>
        times.all fun now => !assembler.isStale now slot } := by
  induction times generalizing assembler with
  | nil =>
    rw [List.map_nil, after_nil]
    simp only [List.all_nil, Table.filter_all]
  | cons now rest ih =>
    rw [List.map_cons, after_cons, ih]
    simp only [step, evict, Table.filter_filter, List.all_cons, isStale]

theorem after_evictions_of_latest (assembler : Assembler) {times : List Nat} {latest : Nat}
    (among : latest ∈ times) (upTo : ∀ time ∈ times, time ≤ latest) :
    assembler.after (times.map .evict) = (assembler.evict latest).2 := by
  have same (slot : Slot) : (times.all fun now => !assembler.isStale now slot) =
      !assembler.isStale latest slot := by
    rw [Bool.eq_iff_iff, List.all_eq_true]
    simp only [Bool.not_eq_true', ← Bool.not_eq_true]
    exact ⟨fun all => all latest among, fun fresh now member stale =>
      fresh (isStale_mono (upTo now member) stale)⟩
  rw [after_evictions]
  simp only [same]
  rfl

theorem sum_evictions_add_size (assembler : Assembler) (times : List Nat) :
    (assembler.evictions times).sum + (assembler.after (times.map .evict)).slots.size =
      assembler.slots.size := by
  induction times generalizing assembler with
  | nil => exact Nat.zero_add _
  | cons now rest ih =>
    rw [evictions, List.sum_cons, List.map_cons, after_cons, Nat.add_assoc]
    exact (congrArg _ (ih (assembler.evict now).2)).trans (assembler.evict_add_size now)

/-- An eviction forgets just the devices whose latest frame is longer ago than the expiry. -/
theorem evict_exact (expiry : Duration) (inputs : List Input) :
    (∀ now, ForgetsIdle expiry inputs now ((new expiry).after inputs)
      (((new expiry).after inputs).evict now).2 (((new expiry).after inputs).evict now).1) ∧
    ∀ times latest, latest ∈ times → (∀ time ∈ times, time ≤ latest) →
      ((new expiry).after inputs).after (times.map .evict) =
        (((new expiry).after inputs).evict latest).2 ∧
      (((new expiry).after inputs).evictions times).sum =
        (((new expiry).after inputs).evict latest).1 := by
  refine ⟨forgetsIdle_evict expiry inputs, fun times latest among upTo => ?_⟩
  have same := after_evictions_of_latest ((new expiry).after inputs) among upTo
  refine ⟨same, ?_⟩
  -- both leave as many devices, so both forget as many
  have row := sum_evictions_add_size ((new expiry).after inputs) times
  have once := evict_add_size ((new expiry).after inputs) latest
  rw [same] at row
  exact Nat.add_right_cancel (row.trans once.symm)

/-- One device sends a frame without a flag, which does not count, another a corrupted frame, which
does, and the clock goes back. -/
def idleRun : List Input :=
  [.push "A" ⟨{ frameFlag := 2, sequence := 5 }, [1], true⟩ 5000000000,
    .push "A" ⟨{ frameFlag := 0, sequence := 6 }, [2], true⟩ 9000000000,
    .push "B" ⟨{ frameFlag := 2 }, [3], true⟩ 100,
    .push "B" ⟨{ frameFlag := 0 }, [4], false⟩ 3000000000]

theorem idleRun_forgets :
    (∃ latest, latestTouch? "B" idleRun = some latest ∧
      (¬ (((new (.ofSeconds 1)).after idleRun).evict 4000000000).2.Knows "B" ↔
        1000000000 < max 0 (4000000000 - (latest : Int)))) ∧
    (∃ latest, latestTouch? "B" idleRun = some latest ∧
      (¬ (((new (.ofSeconds 1)).after idleRun).evict 4000000001).2.Knows "B" ↔
        1000000000 < max 0 (4000000001 - (latest : Int)))) ∧
    latestTouch? "A" idleRun = some 5000000000 ∧ latestTouch? "B" idleRun = some 3000000000 ∧
    ((new (.ofSeconds 1)).after idleRun).evictions [4000000001, 2000000000, 6000000001] =
      [1, 0, 1] ∧
    (((new (.ofSeconds 1)).after idleRun).evict 6000000001).1 = 2 := by
  obtain ⟨each, row⟩ := evict_exact (.ofSeconds 1) idleRun
  have known : ((new (.ofSeconds 1)).after idleRun).Knows "B" := by
    unfold Knows
    decide +kernel
  refine ⟨(each 4000000000).forgotten "B" known, (each 4000000001).forgotten "B" known,
    by decide +kernel, by decide +kernel, by decide +kernel, ?_⟩
  rw [← (row [4000000001, 2000000000, 6000000001] 6000000001 (by decide) (by decide)).2]
  decide +kernel

end Assembler

end VoiceBus
