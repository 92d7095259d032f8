import VoiceBus.Proofs.Assembler.Loss
import VoiceBus.Proofs.Assembler.Reassembly

/-! # The fate of every frame

Each frame of an utterance arrives intact, is lost, or arrives damaged. The fates decide what comes
out: the utterance without the frames that were lost first, or nothing, once any frame is damaged or
is lost behind one that arrived.
-/

namespace VoiceBus

/-- What happens to a frame on its way. -/
inductive Fate
  | intact (now : Nat)
  | lost
  /-- Some frame with a wrong checksum arrives in its place. -/
  | damaged (other : VerifiedFrame) (bad : other.valid = false) (now : Nat)

/-- What arrives of frames, and when. -/
def arriving : List VerifiedFrame → List Fate → List (VerifiedFrame × Nat)
  | frame :: rest, .intact now :: fates => (frame, now) :: arriving rest fates
  | _ :: rest, .lost :: fates => arriving rest fates
  | _ :: rest, .damaged other _ now :: fates => (other, now) :: arriving rest fates
  | _, _ => []

/-- So many frames are lost first, and the others arrive intact. -/
def OnlyFirstLost (count : Nat) (fates : List Fate) : Prop :=
  ∃ times : List Nat, fates = List.replicate count .lost ++ times.map .intact

/-- Frames are kept for a while, and all later ones are rejected. -/
def IsBroken (events : List AssemblyEvent) : Prop :=
  ∃ kept refused, events = kept ++ refused ∧ (∀ event ∈ kept, event.IsBuffered) ∧
    ∀ event ∈ refused, event.IsRejected

theorem delivered_arriving {sent : List VerifiedFrame} {fates : List Fate}
    (each : fates.length = sent.length) : Delivered sent (arriving sent fates) := by
  induction sent generalizing fates with
  | nil =>
    obtain rfl := List.length_eq_zero_iff.1 each
    exact .nil
  | cons frame rest ih =>
    obtain ⟨fate, fates, rfl⟩ := List.exists_cons_of_length_eq_add_one each
    have others := ih (Nat.succ.inj each)
    cases fate with
    | intact now => exact .intact now others
    | lost => exact .lost others
    | damaged other bad now => exact .damaged now bad others

theorem OnlyFirstLost.arriving {count : Nat} {fates : List Fate} (h : OnlyFirstLost count fates)
    {sent : List VerifiedFrame} (each : fates.length = sent.length) :
    (arriving sent fates).map Prod.fst = sent.drop count := by
  obtain ⟨times, rfl⟩ := h
  induction count generalizing sent with
  | zero =>
    rw [List.replicate_zero, List.nil_append] at each ⊢
    induction times generalizing sent with
    | nil =>
      obtain rfl := List.length_eq_zero_iff.1 each.symm
      rfl
    | cons now times ih =>
      obtain ⟨frame, rest, rfl⟩ := List.exists_cons_of_length_eq_add_one each.symm
      exact congrArg _ (ih (Nat.succ.inj each))
  | succ count ih =>
    obtain ⟨frame, rest, rfl⟩ := List.exists_cons_of_length_eq_add_one each.symm
    exact ih (Nat.succ.inj each)

/-! ## Events -/

theorem AssemblyEvent.IsBuffered.not_isRejected {event : AssemblyEvent} (h : event.IsBuffered) :
    ¬ event.IsRejected := by
  obtain ⟨bytes, rfl⟩ := h
  rintro ⟨reason, same⟩
  cases same

theorem AssemblyEvent.not_isRejected_complete (utterance : Utterance) :
    ¬ (complete utterance).IsRejected := by
  rintro ⟨reason, same⟩
  cases same

theorem pairwise_of_not_rejected {events : List AssemblyEvent}
    (taken : ∀ event ∈ events, ¬ event.IsRejected) :
    events.Pairwise fun earlier later => earlier.IsRejected → later.IsRejected :=
  List.pairwise_of_forall_mem_list fun earlier here _ _ rejected =>
    absurd rejected (taken earlier here)

namespace IsBroken

variable {events : List AssemblyEvent}

theorem of_rejected (h : ∀ event ∈ events, event.IsRejected) : IsBroken events :=
  ⟨[], events, rfl, by simp, h⟩

theorem cons_buffered (h : IsBroken events) (bytes : Nat) :
    IsBroken (.buffered bytes :: events) := by
  obtain ⟨kept, refused, rfl, held, rejected⟩ := h
  exact ⟨.buffered bytes :: kept, refused, rfl, List.forall_mem_cons.2 ⟨⟨bytes, rfl⟩, held⟩, rejected⟩

theorem not_complete (h : IsBroken events) (utterance : Utterance) :
    .complete utterance ∉ events := by
  obtain ⟨kept, refused, rfl, held, rejected⟩ := h
  rw [List.mem_append]
  rintro (here | there)
  · obtain ⟨bytes, same⟩ := held _ here
    cases same
  · exact AssemblyEvent.not_isRejected_complete utterance (rejected _ there)

theorem pairwise (h : IsBroken events) :
    events.Pairwise fun earlier later => earlier.IsRejected → later.IsRejected := by
  obtain ⟨kept, refused, rfl, held, rejected⟩ := h
  rw [List.pairwise_append]
  refine ⟨?_, ?_, ?_⟩
  · exact pairwise_of_not_rejected fun event member => (held event member).not_isRejected
  · exact List.pairwise_of_forall_mem_list fun _ _ later there _ => rejected later there
  · exact fun _ _ later there _ => rejected later there

end IsBroken

namespace Slot

variable {slot : Option Slot} {first : UInt16} {sent : List VerifiedFrame} {fates : List Fate}

theorem broken_of_damaged {frame other : VerifiedFrame} (others : IsUtterance first sent)
    (each : fates.length = sent.length) (bad : other.valid = false) (now : Nat) :
    IsBroken (events slot (arriving (frame :: sent) (.damaged other bad now :: fates))) := by
  have rest : Rejects [] (some ⟨.discarding, now⟩) (arriving sent fates) :=
    Spoiled.rejects others (delivered_arriving each) (.discarding now)
  exact .of_rejected (Rejects.cons (.corrupted bad) rest).rejected

theorem last_fate (slot : Option Slot) (frame : VerifiedFrame) (fate : Fate) :
    OnlyFirstLost 0 [fate] ∨ IsBroken (events slot (arriving [frame] [fate])) := by
  cases fate with
  | intact now => exact Or.inl ⟨[now], rfl⟩
  | lost => exact Or.inr (.of_rejected (by simp [arriving, events]))
  | damaged other bad now =>
    have rest : Rejects [] (some ⟨.discarding, now⟩) [] := .nil (Or.inr (.discarding now))
    exact Or.inr (.of_rejected (Rejects.cons (.corrupted bad) rest).rejected)

theorem joining_fates {pending : Pending} (since : Nat) (utterance : IsUtterance first sent)
    (each : fates.length = sent.length) (next : pending.nextSequence = first)
    (distinct : (sent.map (·.header.sequence)).Nodup) :
    OnlyFirstLost 0 fates ∨
      IsBroken (events (some ⟨.buffering pending, since⟩) (arriving sent fates)) := by
  induction utterance generalizing fates pending since with
  | last valid flag =>
    obtain ⟨fate, rfl⟩ := List.length_eq_one_iff.1 each
    exact last_fate _ _ fate
  | fragment valid flag others ih =>
    rename_i frame rest
    obtain ⟨fate, fates, rfl⟩ := List.exists_cons_of_length_eq_add_one each
    have count := Nat.succ.inj each
    have fresh := List.nodup_cons.1 distinct
    cases fate with
    | intact now =>
      have joined : (pending.extend frame.header.sequence frame.payload).nextSequence =
          frame.header.sequence + 1 := rfl
      rcases ih now count joined fresh.2 with ⟨times, rfl⟩ | broken
      · exact Or.inl ⟨now :: times, rfl⟩
      · refine Or.inr ?_
        rw [arriving, (events_cons (.buffered valid flag (.next next)) _).1]
        exact broken.cons_buffered _
    | lost =>
      -- the slot waits for the lost number, which does not come again
      have waits : pending.nextSequence ∉ rest.map (·.header.sequence) ++ [] := by
        rw [next, List.append_nil]
        exact fresh.1
      have rejects := Spoiled.rejects others (delivered_arriving count) (.stale since waits)
      exact Or.inr (.of_rejected rejects.rejected)
    | damaged other bad now => exact Or.inr (broken_of_damaged others count bad now)

theorem idle_fates (utterance : IsUtterance first sent) (each : fates.length = sent.length)
    (distinct : (sent.map (·.header.sequence)).Nodup) :
    (∃ count < sent.length, OnlyFirstLost count fates) ∨
      IsBroken (events none (arriving sent fates)) := by
  induction utterance generalizing fates with
  | last valid flag =>
    obtain ⟨fate, rfl⟩ := List.length_eq_one_iff.1 each
    exact (last_fate none _ fate).imp_left fun intact => ⟨0, Nat.one_pos, intact⟩
  | fragment valid flag others ih =>
    rename_i frame rest
    obtain ⟨fate, fates, rfl⟩ := List.exists_cons_of_length_eq_add_one each
    have count := Nat.succ.inj each
    have fresh := List.nodup_cons.1 distinct
    cases fate with
    | intact now =>
      have opened : ((Pending.start frame.header).extend frame.header.sequence
          frame.payload).nextSequence = frame.header.sequence + 1 := rfl
      rcases joining_fates now others count opened fresh.2 with ⟨times, rfl⟩ | broken
      · exact Or.inl ⟨0, Nat.succ_pos _, now :: times, rfl⟩
      · refine Or.inr ?_
        rw [arriving, (events_cons (.buffered valid flag .opens) _).1]
        exact broken.cons_buffered _
    | lost =>
      rcases ih count fresh.2 with ⟨lost, below, times, rfl⟩ | broken
      · exact Or.inl ⟨lost + 1, Nat.succ_lt_succ below, times, rfl⟩
      · exact Or.inr broken
    | damaged other bad now => exact Or.inr (broken_of_damaged others count bad now)

end Slot

theorem IsUtterance.drop {first : UInt16} {sent : List VerifiedFrame}
    (h : IsUtterance first sent) {count : Nat} (below : count < sent.length) :
    ∃ later, IsUtterance later (sent.drop count) := by
  induction h generalizing count with
  | last valid flag =>
    obtain rfl := Nat.lt_one_iff.1 below
    exact ⟨_, .last valid flag⟩
  | fragment valid flag others ih =>
    cases count with
    | zero => exact ⟨_, .fragment valid flag others⟩
    | succ count => exact ih (Nat.lt_of_succ_lt_succ below)

theorem OnlyFirstLost.joined {count : Nat} {fates : List Fate} (h : OnlyFirstLost count fates)
    {first : UInt16} {sent : List VerifiedFrame} (utterance : IsUtterance first sent)
    (each : fates.length = sent.length) (below : count < sent.length) :
    ∃ kept utterance, Slot.events none (VoiceBus.arriving sent fates) =
        kept ++ [.complete utterance] ∧
      (∀ event ∈ kept, event.IsBuffered) ∧
      utterance.audio = (sent.drop count).flatMap (·.payload) ∧
      utterance.frames = sent.length - count := by
  obtain ⟨later, rest⟩ := utterance.drop below
  obtain ⟨opening, isHead, -⟩ := rest.head
  have next : ∀ frame ∈ (sent.drop count).head?,
      Slot.Continues frame.header none (.start opening.header) := by
    intro frame isFirst
    obtain rfl := Option.mem_unique isFirst isHead
    exact .opens
  obtain ⟨events, -⟩ := Slot.events_utterance rest (h.arriving each) next
  obtain ⟨kept, joined, held⟩ := joinEvents_eq_append (.start opening.header)
    ((sent.drop count).map (·.payload))
  refine ⟨kept, _, events.trans joined, held, ?_, ?_⟩
  · rw [List.flatMap_def]
    rfl
  · simp [Pending.start]

/-- An utterance is completed exactly when no frame is damaged and only first ones are lost. -/
theorem fates_decide {encoder : Encoder} {size : Nat} {data : Bytes} {wires : List Bytes}
    (encoded : (encoder.encodeFragments size data).1 = .ok wires) (few : wires.length ≤ 65536) :
    ∃ frames, wires.map Frame.verify = frames.map .ok ∧
      ∀ (start : Assembler) (device : String) (fates : List Fate),
        start.slots.get? device = none → fates.length = frames.length →
        ((∃ utterance, .complete utterance ∈ start.events device (arriving frames fates)) ↔
          ∃ count < frames.length, OnlyFirstLost count fates) ∧
        (∀ count < frames.length, OnlyFirstLost count fates →
          ∃ before utterance,
            start.events device (arriving frames fates) = before ++ [.complete utterance] ∧
            (∀ event ∈ before, event.complete? = none) ∧
            utterance.audio = (frames.drop count).flatMap (·.payload) ∧
            utterance.frames = frames.length - count) ∧
        (start.events device (arriving frames fates)).Pairwise
          fun earlier later => earlier.IsRejected → later.IsRejected := by
  obtain ⟨-, frames, checked, utterance, -⟩ := Encoder.received_of_encodeFragments encoded
  refine ⟨frames, checked, ?_⟩
  intro start device fates fresh each
  rw [start.events_eq, fresh]
  have distinct : (frames.map (·.header.sequence)).Nodup := by
    have same := congrArg List.length checked
    rw [List.length_map, List.length_map] at same
    rw [utterance.numbers, ← same]
    exact nodup_numbersFrom _ few
  have outcome := Slot.idle_fates utterance each distinct
  refine ⟨⟨?_, ?_⟩, ?_, ?_⟩
  · rintro ⟨made, complete⟩
    exact outcome.resolve_right fun broken => broken.not_complete made complete
  · rintro ⟨count, below, onlyFirst⟩
    obtain ⟨kept, made, events, -⟩ := onlyFirst.joined utterance each below
    exact ⟨made, by simp [events]⟩
  · intro count below onlyFirst
    obtain ⟨kept, made, events, held, parts⟩ := onlyFirst.joined utterance each below
    refine ⟨kept, made, events, ?_, parts⟩
    intro event member
    obtain ⟨bytes, rfl⟩ := held event member
    rfl
  · rcases outcome with ⟨count, below, onlyFirst⟩ | broken
    · obtain ⟨kept, made, events, held, -⟩ := onlyFirst.joined utterance each below
      rw [events]
      apply pairwise_of_not_rejected
      intro event member
      rcases List.mem_append.1 member with here | final
      · exact (held event here).not_isRejected
      · rw [List.mem_singleton.1 final]
        exact AssemblyEvent.not_isRejected_complete made
    · exact broken.pairwise

theorem one_of_three_lost : ∃ wires frames,
    (Encoder.encodeFragments { audio := {}, sequence := 65535, clock := fun _ => 7 } 2
      [1, 2, 3, 4, 5]).1 = .ok wires ∧ wires.length ≤ 65536 ∧
    wires.map Frame.verify = frames.map .ok ∧ frames.length = 3 ∧
    (∃ before utterance, (Assembler.new ⟨1, 0⟩).events "A0001"
        (arriving frames [.lost, .intact 3, .intact 9]) = before ++ [.complete utterance] ∧
      utterance.audio = (frames.drop 1).flatMap (·.payload) ∧ utterance.frames = 2) ∧
    ¬ ∃ utterance, .complete utterance ∈ (Assembler.new ⟨1, 0⟩).events "A0001"
        (arriving frames [.intact 3, .lost, .intact 9]) := by
  obtain ⟨wires, encoded⟩ : ∃ wires, (Encoder.encodeFragments
      { audio := {}, sequence := 65535, clock := fun _ => 7 } 2 [1, 2, 3, 4, 5]).1 = .ok wires :=
    ⟨_, Encoder.encodeFragments_of_isPieceSize _ _ (by decide)⟩
  have length : wires.length = 3 := Encoder.length_of_encodeFragments encoded
  have few : wires.length ≤ 65536 := by omega
  obtain ⟨frames, checked, decided⟩ := fates_decide encoded few
  have count : frames.length = 3 := by
    have same := congrArg List.length checked
    rw [List.length_map, List.length_map, length] at same
    exact same.symm
  obtain ⟨-, left, -⟩ :=
    decided (.new ⟨1, 0⟩) "A0001" [.lost, .intact 3, .intact 9] rfl count.symm
  have some_left : 1 < frames.length := by omega
  obtain ⟨before, utterance, events, -, audio, made⟩ := left 1 some_left ⟨[3, 9], rfl⟩
  obtain ⟨complete, -⟩ :=
    decided (.new ⟨1, 0⟩) "A0001" [.intact 3, .lost, .intact 9] rfl count.symm
  refine ⟨wires, frames, encoded, few, checked, count,
    ⟨before, utterance, events, audio, by rw [made, count]⟩, ?_⟩
  rw [complete]
  rintro ⟨lost, -, times, same⟩
  cases lost with
  | zero =>
    have arrives : Fate.lost ∈ times.map .intact := by
      rw [List.replicate_zero, List.nil_append] at same
      simp [← same]
    simp at arrives
  | succ lost => cases same

end VoiceBus
