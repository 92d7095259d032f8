import VoiceBus.Assembler.Basic

/-! # Runs of an assembler

A run is a list of inputs. A device is seen through its slot: pushes for other devices do not
touch it.
-/

namespace VoiceBus.Assembler

inductive Input
  | push (device : String) (frame : VerifiedFrame) (now : Nat)
  | evict (now : Nat)
  deriving DecidableEq, Repr

def step (assembler : Assembler) : Input → Assembler
  | .push device frame now => (assembler.push device frame now).2
  | .evict now => (assembler.evict now).2

def after (assembler : Assembler) (inputs : List Input) : Assembler := inputs.foldl step assembler

/-- What one input does to the slot of a device. -/
def Input.onSlot (expiry : Nat) (device : String) (slot : Option Slot) : Input → Option Slot
  | .push other frame now => if other = device then (Slot.push slot frame now).2 else slot
  | .evict now => slot.filter fun slot => !slot.isStale expiry now

/-- The slot of a device after the first `n` inputs. -/
def slotAt (start : Assembler) (inputs : List Input) (device : String) (n : Nat) : Option Slot :=
  (start.after (inputs.take n)).slots.get? device

@[simp] theorem after_nil (assembler : Assembler) : assembler.after [] = assembler := rfl

@[simp] theorem after_cons (assembler : Assembler) (input : Input) (inputs : List Input) :
    assembler.after (input :: inputs) = (assembler.step input).after inputs := rfl

theorem after_append (assembler : Assembler) (first second : List Input) :
    assembler.after (first ++ second) = (assembler.after first).after second :=
  List.foldl_append

@[simp] theorem expiry_step (assembler : Assembler) (input : Input) :
    (assembler.step input).expiry = assembler.expiry := by
  cases input <;> rfl

@[simp] theorem expiry_after (assembler : Assembler) (inputs : List Input) :
    (assembler.after inputs).expiry = assembler.expiry := by
  induction inputs generalizing assembler with
  | nil => rfl
  | cons input rest ih => rw [after_cons, ih, expiry_step]

theorem get?_step (assembler : Assembler) (input : Input) (device : String) :
    (assembler.step input).slots.get? device =
      input.onSlot assembler.expiry.total device (assembler.slots.get? device) := by
  cases input with
  | push other frame now =>
    by_cases same : other = device
    · subst same
      simp [step, Input.onSlot]
    · simp only [step, Input.onSlot, same, if_false]
      exact get?_push_of_ne assembler frame now (Ne.symm same)
  | evict now => exact get?_evict assembler device now

@[simp] theorem get?_new (expiry : Duration) (device : String) :
    (Assembler.new expiry).slots.get? device = none := rfl

@[simp] theorem slotAt_zero (start : Assembler) (inputs : List Input) (device : String) :
    start.slotAt inputs device 0 = start.slots.get? device := by
  simp [slotAt]

theorem slotAt_succ {start : Assembler} {inputs : List Input} {input : Input} {n : Nat}
    (device : String) (h : inputs[n]? = some input) :
    start.slotAt inputs device (n + 1) =
      input.onSlot start.expiry.total device (start.slotAt inputs device n) := by
  unfold slotAt
  rw [List.take_add_one, h, after_append, Option.toList_some, after_cons, after_nil, get?_step,
    expiry_after]

end VoiceBus.Assembler
