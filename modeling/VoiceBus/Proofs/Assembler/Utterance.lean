import VoiceBus.Proofs.Assembler.Slot

/-! # What arrives of an utterance

An utterance is sent as fragments and a last piece. On the way every frame arrives intact, arrives
damaged, or is lost. A slot that holds nothing gives out an utterance exactly when what arrived is
an end of it, all intact; a slot that holds something else gives out none.
-/

namespace VoiceBus

def AssemblyEvent.complete? : AssemblyEvent → Option Utterance
  | complete utterance => some utterance
  | buffered _ | rejected _ => none

def AssemblyEvent.IsRejected (event : AssemblyEvent) : Prop := ∃ reason, event = .rejected reason

def Utterance.ofFrames? (frames : List VerifiedFrame) : Option Utterance :=
  frames.head?.map fun first => ⟨first.header, frames.flatMap (·.payload), frames.length⟩

/-- Numbers one after the other. They wrap. -/
def numbersFrom (first : UInt16) : Nat → List UInt16
  | 0 => []
  | count + 1 => first :: numbersFrom (first + 1) count

/-- Intact frames of one utterance, numbered one after the other. -/
inductive IsUtterance : UInt16 → List VerifiedFrame → Prop
  | last {frame : VerifiedFrame} (valid : frame.valid = true)
    (flag : frame.header.flag? = some .last) : IsUtterance frame.header.sequence [frame]
  | fragment {frame : VerifiedFrame} {rest : List VerifiedFrame} (valid : frame.valid = true)
    (flag : frame.header.flag? = some .fragment)
    (others : IsUtterance (frame.header.sequence + 1) rest) :
    IsUtterance frame.header.sequence (frame :: rest)

/-- What arrives, and when, of frames that are sent. -/
inductive Delivered : List VerifiedFrame → List (VerifiedFrame × Nat) → Prop
  | nil : Delivered [] []
  | intact {frame : VerifiedFrame} {sent : List VerifiedFrame}
    {arrived : List (VerifiedFrame × Nat)} (now : Nat) (others : Delivered sent arrived) :
    Delivered (frame :: sent) ((frame, now) :: arrived)
  | lost {frame : VerifiedFrame} {sent : List VerifiedFrame}
    {arrived : List (VerifiedFrame × Nat)} (others : Delivered sent arrived) :
    Delivered (frame :: sent) arrived
  | damaged {frame other : VerifiedFrame} {sent : List VerifiedFrame}
    {arrived : List (VerifiedFrame × Nat)} (now : Nat) (bad : other.valid = false)
    (others : Delivered sent arrived) : Delivered (frame :: sent) ((other, now) :: arrived)

namespace Slot

def afterAll (slot : Option Slot) (arrived : List (VerifiedFrame × Nat)) : Option Slot :=
  arrived.foldl (fun slot arrival => (push slot arrival.1 arrival.2).2) slot

/-- What becomes of frames that come one after the other. -/
def events (slot : Option Slot) : List (VerifiedFrame × Nat) → List AssemblyEvent
  | [] => []
  | (frame, now) :: rest => (push slot frame now).1 :: events (push slot frame now).2 rest

def completed (slot : Option Slot) : List (VerifiedFrame × Nat) → List Utterance
  | [] => []
  | (frame, now) :: rest =>
    (push slot frame now).1.complete?.toList ++ completed (push slot frame now).2 rest

/-- A slot that will give out nothing before the end of an utterance: it discards, or it waits for
a number that is not to come. -/
inductive Spoiled (later : List UInt16) : Option Slot → Prop
  | discarding (since : Nat) : Spoiled later (some ⟨.discarding, since⟩)
  | stale {pending : Pending} (since : Nat) (h : pending.nextSequence ∉ later) :
    Spoiled later (some ⟨.buffering pending, since⟩)

/-- A slot between two utterances. -/
def Settled (later : List UInt16) (slot : Option Slot) : Prop := slot = none ∨ Spoiled later slot

theorem afterAll_cons (slot : Option Slot) (arrival : VerifiedFrame × Nat)
    (rest : List (VerifiedFrame × Nat)) :
    afterAll slot (arrival :: rest) = afterAll (push slot arrival.1 arrival.2).2 rest := rfl

end Slot

theorem filterMap_cons_toList {α β : Type} (f : α → Option β) (a : α) (rest : List α) :
    (a :: rest).filterMap f = (f a).toList ++ rest.filterMap f := by
  rw [List.filterMap_cons]
  cases f a <;> rfl

theorem Utterance.eq_of_ofFrames? {frames : List VerifiedFrame} {utterance : Utterance}
    (h : Utterance.ofFrames? frames = some utterance) :
    utterance.audio = frames.flatMap (·.payload) ∧ utterance.frames = frames.length := by
  unfold ofFrames? at h
  obtain ⟨first, -, rfl⟩ := Option.map_eq_some_iff.1 h
  exact ⟨rfl, rfl⟩

/-! ## Numbers -/

theorem toNat_add_ofNat (first : UInt16) (count : Nat) :
    (first + UInt16.ofNat count).toNat = (first.toNat + count) % 65536 := by
  rw [UInt16.toNat_add, UInt16.toNat_ofNat', Nat.add_mod_mod]

theorem numbersFrom_eq_map (first : UInt16) (count : Nat) :
    numbersFrom first count = (List.range count).map fun i => first + UInt16.ofNat i := by
  induction count generalizing first with
  | zero => rfl
  | succ count ih =>
    rw [numbersFrom, ih, List.range_succ_eq_map, List.map_cons, List.map_map]
    congr 1
    · simp
    · refine List.map_congr_left fun i _ => ?_
      rw [Function.comp_apply, Nat.succ_eq_add_one, UInt16.ofNat_add, UInt16.add_assoc,
        UInt16.add_comm (UInt16.ofNat i)]
      rfl

theorem mem_numbersFrom {number first : UInt16} {count : Nat}
    (h : number ∈ numbersFrom first count) : ∃ i < count, number = first + UInt16.ofNat i := by
  rw [numbersFrom_eq_map] at h
  obtain ⟨i, below, rfl⟩ := List.mem_map.1 h
  exact ⟨i, List.mem_range.1 below, rfl⟩

theorem getElem?_numbersFrom {number first : UInt16} {count i : Nat}
    (h : (numbersFrom first count)[i]? = some number) : number = first + UInt16.ofNat i := by
  rw [numbersFrom_eq_map, List.getElem?_map] at h
  obtain ⟨place, here, rfl⟩ := Option.map_eq_some_iff.1 h
  obtain ⟨inside, rfl⟩ := List.getElem?_eq_some_iff.1 here
  rw [List.getElem_range]

theorem nodup_numbersFrom (first : UInt16) {count : Nat} (h : count ≤ 65536) :
    (numbersFrom first count).Nodup := by
  induction count generalizing first with
  | zero => exact List.nodup_nil
  | succ count ih =>
    rw [numbersFrom, List.nodup_cons]
    refine ⟨?_, ih _ (by omega)⟩
    intro again
    -- first would be i + 1 numbers above itself, which takes 65536 of them
    obtain ⟨i, below, same⟩ := mem_numbersFrom again
    have sum := congrArg UInt16.toNat same
    have small := first.toNat_lt
    rw [toNat_add_ofNat, UInt16.toNat_add, UInt16.toNat_one] at sum
    omega

theorem numbersFrom_add (first : UInt16) (count more : Nat) :
    numbersFrom first (count + more) =
      numbersFrom first count ++ numbersFrom (first + UInt16.ofNat count) more := by
  induction count generalizing first with
  | zero => simp [numbersFrom]
  | succ count ih =>
    rw [Nat.succ_add, numbersFrom, ih, numbersFrom, List.cons_append, UInt16.ofNat_add,
      UInt16.add_comm (UInt16.ofNat count), ← UInt16.add_assoc]
    rfl

/-! ## Frames that are sent -/

namespace IsUtterance

variable {first : UInt16} {sent : List VerifiedFrame}

theorem valid (h : IsUtterance first sent) : ∀ frame ∈ sent, frame.valid = true := by
  induction h with
  | last valid flag => simp [valid]
  | fragment valid flag others ih => exact List.forall_mem_cons.2 ⟨valid, ih⟩

theorem numbers (h : IsUtterance first sent) :
    sent.map (·.header.sequence) = numbersFrom first sent.length := by
  induction h with
  | last valid flag => rfl
  | fragment valid flag others ih =>
    rw [List.map_cons, ih]
    rfl

theorem ne_nil (h : IsUtterance first sent) : sent ≠ [] := by
  cases h <;> exact List.cons_ne_nil _ _

theorem head (h : IsUtterance first sent) :
    ∃ frame ∈ sent.head?, frame.header.sequence = first := by
  cases h with
  | last valid flag => exact ⟨_, rfl, rfl⟩
  | fragment valid flag others => exact ⟨_, rfl, rfl⟩

theorem flag_getLast? (h : IsUtterance first sent) {final : VerifiedFrame}
    (ends : sent.getLast? = some final) : final.header.flag? = some .last := by
  induction h with
  | last valid flag =>
    obtain rfl := Option.some.inj ends
    exact flag
  | fragment valid flag others ih =>
    rw [List.getLast?_cons_of_ne_nil others.ne_nil] at ends
    exact ih ends

end IsUtterance

namespace Delivered

theorem length_le {sent : List VerifiedFrame} {arrived : List (VerifiedFrame × Nat)}
    (h : Delivered sent arrived) : arrived.length ≤ sent.length := by
  induction h with
  | nil => exact Nat.le_refl 0
  | intact now others ih => exact Nat.succ_le_succ ih
  | lost others ih => exact Nat.le_succ_of_le ih
  | damaged now bad others ih => exact Nat.succ_le_succ ih

theorem append {first second : List VerifiedFrame} {arrived : List (VerifiedFrame × Nat)}
    (h : Delivered (first ++ second) arrived) :
    ∃ before after, arrived = before ++ after ∧ Delivered first before ∧
      Delivered second after := by
  induction first generalizing arrived with
  | nil => exact ⟨[], arrived, rfl, .nil, h⟩
  | cons frame rest ih =>
    cases h with
    | intact now others =>
      obtain ⟨before, after, rfl, here, there⟩ := ih others
      exact ⟨_, after, rfl, .intact now here, there⟩
    | lost others =>
      obtain ⟨before, after, rfl, here, there⟩ := ih others
      exact ⟨before, after, rfl, .lost here, there⟩
    | damaged now bad others =>
      obtain ⟨before, after, rfl, here, there⟩ := ih others
      exact ⟨_, after, rfl, .damaged now bad here, there⟩

theorem of_sublist {sent : List VerifiedFrame} {arrived : List (VerifiedFrame × Nat)}
    (h : (arrived.map Prod.fst).Sublist sent) : Delivered sent arrived := by
  induction sent generalizing arrived with
  | nil =>
    rw [List.sublist_nil, List.map_eq_nil_iff] at h
    rw [h]
    exact .nil
  | cons frame rest ih =>
    rcases List.sublist_cons_iff.1 h with later | ⟨others, parts, later⟩
    · exact .lost (ih later)
    · obtain ⟨⟨_, now⟩, tail, rfl, rfl, rfl⟩ := List.map_eq_cons_iff.1 parts
      exact .intact now (ih later)

end Delivered

end VoiceBus
