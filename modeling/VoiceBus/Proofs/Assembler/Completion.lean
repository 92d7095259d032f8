import Mathlib.Data.List.Chain
import VoiceBus.Proofs.Assembler.Run
import VoiceBus.Proofs.Assembler.Slot

/-! # Where complete utterances come from

While a slot fills, the run's history holds the frames it was filled with, and no other frame of
the device with a flag came between them. So an utterance is never joined from frames of two.
-/

namespace VoiceBus.Assembler

variable {start : Assembler} {inputs : List Input} {device : String}

def pushed? (inputs : List Input) (device : String) (i : Nat) : Option VerifiedFrame :=
  match inputs[i]? with
  | some (.push other frame _) => if other = device then some frame else none
  | some (.evict _) | none => none

/-- The pushes at `parts` brought `frames`, each intact and numbered one above the one before.
From the first of them up to `stop` the device is never forgotten, and its other frames are
intact and without a flag. -/
structure Gathered (start : Assembler) (inputs : List Input) (device : String) (stop : Nat)
    (parts : List Nat) (frames : List VerifiedFrame) : Prop where
  pushes : parts.map (pushed? inputs device) = frames.map some
  sorted : parts.Pairwise (· < ·)
  below : ∀ i ∈ parts, i < stop
  valid : ∀ frame ∈ frames, frame.valid = true
  consecutive : frames.IsChain fun a b => b.header.sequence = a.header.sequence + 1
  others : ∀ i ∈ parts, ∀ j, i < j → j < stop → ∀ frame, pushed? inputs device j = some frame →
    j ∈ parts ∨ (frame.valid = true ∧ frame.header.flag? = none)
  held : ∀ i ∈ parts, ∀ j, i < j → j < stop → start.slotAt inputs device j ≠ none

/-- The push at `k` joins `frames` to an utterance: fragments, and the last piece at `k`. -/
structure Joined (start : Assembler) (inputs : List Input) (device : String) (k : Nat)
    (parts : List Nat) (frames : List VerifiedFrame) (utterance : Utterance) : Prop
    extends Gathered start inputs device (k + 1) parts frames where
  closes : parts.getLast? = some k
  flags : frames.map (·.header.flag?) =
    List.replicate (frames.length - 1) (some .fragment) ++ [some .last]
  header : frames.head?.map (·.header) = some utterance.header
  audio : utterance.audio = frames.flatMap (·.payload)
  count : utterance.frames = frames.length

/-- The push at `k` brings a frame that completes an utterance. -/
def CompletesAt (start : Assembler) (inputs : List Input) (k : Nat) (device : String)
    (frame : VerifiedFrame) (utterance : Utterance) : Prop :=
  ∃ now, inputs[k]? = some (.push device frame now) ∧
    ((start.after (inputs.take k)).push device frame now).1 = .complete utterance

/-- The frame pushed at `i` is part of the utterance that is complete at `k`. -/
def Contributes (start : Assembler) (inputs : List Input) (i k : Nat) : Prop :=
  ∃ device frame utterance, CompletesAt start inputs k device frame utterance ∧
    ((frame.header.flag? = some .full ∧ i = k) ∨
      ∃ parts frames, Joined start inputs device k parts frames utterance ∧ i ∈ parts)

/-! ## Filling a slot -/

/-- What a slot holds once it was filled with these frames. -/
structure Holds (pending : Pending) (frames : List VerifiedFrame) : Prop where
  header : frames.head?.map (·.header) = some pending.header
  audio : pending.audio = frames.flatMap (·.payload)
  count : pending.frames = frames.length
  next : frames.getLast?.map (·.header.sequence + 1) = some pending.nextSequence

theorem pushed?_eq_some_iff {frame : VerifiedFrame} {i : Nat} :
    pushed? inputs device i = some frame ↔ ∃ now, inputs[i]? = some (.push device frame now) := by
  unfold pushed?
  split
  · rename_i other brought now here
    rw [here]
    by_cases same : other = device <;> simp [same]
  · rename_i now here
    simp [here]
  · rename_i here
    simp [here]

theorem device_eq_of_pushed? {other : String} {frame otherFrame : VerifiedFrame} {i : Nat}
    (h : pushed? inputs device i = some frame) (h' : pushed? inputs other i = some otherFrame) :
    device = other := by
  obtain ⟨now, here⟩ := pushed?_eq_some_iff.1 h
  obtain ⟨now', here'⟩ := pushed?_eq_some_iff.1 h'
  rw [here, Option.some.injEq, Input.push.injEq] at here'
  exact here'.1

theorem pushed?_of_push {other : String} {frame : VerifiedFrame} {now n : Nat}
    (h : inputs[n]? = some (.push other frame now)) :
    pushed? inputs device n = if other = device then some frame else none := by
  simp only [pushed?, h]

namespace Gathered

variable {stop : Nat} {parts : List Nat} {frames : List VerifiedFrame}

theorem nil (stop : Nat) : Gathered start inputs device stop [] [] where
  pushes := rfl
  sorted := .nil
  below := by simp
  valid := by simp
  consecutive := .nil
  others := by simp
  held := by simp

theorem pass (h : Gathered start inputs device stop parts frames)
    (known : start.slotAt inputs device stop ≠ none)
    (idle : ∀ frame, pushed? inputs device stop = some frame →
      frame.valid = true ∧ frame.header.flag? = none) :
    Gathered start inputs device (stop + 1) parts frames where
  pushes := h.pushes
  sorted := h.sorted
  below := fun i member => Nat.lt_succ_of_lt (h.below i member)
  valid := h.valid
  consecutive := h.consecutive
  others := by
    intro i member j above upTo frame pushed
    rcases Nat.lt_succ_iff_lt_or_eq.1 upTo with before | rfl
    · exact h.others i member j above before frame pushed
    · exact Or.inr (idle frame pushed)
  held := by
    intro i member j above upTo
    rcases Nat.lt_succ_iff_lt_or_eq.1 upTo with before | rfl
    · exact h.held i member j above before
    · exact known

theorem snoc {frame : VerifiedFrame} (h : Gathered start inputs device stop parts frames)
    (known : parts ≠ [] → start.slotAt inputs device stop ≠ none)
    (pushed : pushed? inputs device stop = some frame) (valid : frame.valid = true)
    (next : ∀ last ∈ frames.getLast?, frame.header.sequence = last.header.sequence + 1) :
    Gathered start inputs device (stop + 1) (parts ++ [stop]) (frames ++ [frame]) where
  pushes := by simp [h.pushes, pushed]
  sorted := by
    rw [List.pairwise_append]
    refine ⟨h.sorted, List.pairwise_singleton _ _, ?_⟩
    intro i member j here
    rw [List.mem_singleton.1 here]
    exact h.below i member
  below := by
    intro i member
    rcases List.mem_append.1 member with earlier | here
    · exact Nat.lt_succ_of_lt (h.below i earlier)
    · rw [List.mem_singleton.1 here]
      exact Nat.lt_succ_self stop
  valid := by
    intro other member
    rcases List.mem_append.1 member with earlier | here
    · exact h.valid other earlier
    · rw [List.mem_singleton.1 here]
      exact valid
  consecutive := by
    rw [List.isChain_append]
    refine ⟨h.consecutive, .singleton _, ?_⟩
    intro last isLast first isFirst
    simp only [List.head?_cons, Option.mem_def, Option.some.injEq] at isFirst
    rw [← isFirst]
    exact next last isLast
  others := by
    intro i member j above upTo other otherPushed
    rcases Nat.lt_succ_iff_lt_or_eq.1 upTo with before | rfl
    · rcases List.mem_append.1 member with earlier | here
      · rcases h.others i earlier j above before other otherPushed with among | idle
        · exact Or.inl (List.mem_append_left _ among)
        · exact Or.inr idle
      · rw [List.mem_singleton.1 here] at above
        omega
    · exact Or.inl (List.mem_append_right _ (List.mem_singleton_self _))
  held := by
    intro i member j above upTo
    rcases List.mem_append.1 member with earlier | here
    · rcases Nat.lt_succ_iff_lt_or_eq.1 upTo with before | rfl
      · exact h.held i earlier j above before
      · exact known (List.ne_nil_of_mem earlier)
    · rw [List.mem_singleton.1 here] at above
      omega

end Gathered

/-- If the device holds part of an utterance after `n` inputs, the run says from which frames. -/
def Filled (start : Assembler) (inputs : List Input) (device : String) (n : Nat) : Prop :=
  ∀ pending since, start.slotAt inputs device n = some ⟨.buffering pending, since⟩ →
    ∃ parts frames, Gathered start inputs device n parts frames ∧ Holds pending frames ∧
      ∀ frame ∈ frames, frame.header.flag? = some .fragment

theorem Filled.join {n : Nat} {frame : VerifiedFrame} {pending : Pending}
    (filled : Filled start inputs device n) (pushed : pushed? inputs device n = some frame)
    (valid : frame.valid = true)
    (next : Slot.Continues frame.header (start.slotAt inputs device n) pending) :
    ∃ parts frames, Gathered start inputs device (n + 1) (parts ++ [n]) (frames ++ [frame]) ∧
      Holds (pending.extend frame.header.sequence frame.payload) (frames ++ [frame]) ∧
      ∀ frame ∈ frames, frame.header.flag? = some .fragment := by
  generalize slot : start.slotAt inputs device n = held at next
  cases next with
  | opens =>
    refine ⟨[], [], ?_, ?_, by simp⟩
    · exact (Gathered.nil n).snoc (by simp) pushed valid (by simp)
    · exact ⟨rfl, by simp [Pending.extend, Pending.start], rfl, rfl⟩
  | next number =>
    obtain ⟨parts, frames, gathered, holds, fragments⟩ := filled _ _ slot
    refine ⟨parts, frames, ?_, ?_, fragments⟩
    · refine gathered.snoc ?_ pushed valid ?_
      · intro _
        rw [slot]
        exact Option.some_ne_none _
      · intro last isLast
        have counted := holds.next
        rw [Option.mem_def.1 isLast, number] at counted
        exact (Option.some.inj counted).symm
    · refine ⟨?_, ?_, ?_, ?_⟩
      · cases frames with
        | nil => simpa using holds.header
        | cons first rest => exact holds.header
      · simp [Pending.extend, holds.audio]
      · simp [Pending.extend, holds.count]
      · simp [Pending.extend]

theorem Filled.succ {n : Nat} (filled : Filled start inputs device n) (inside : n < inputs.length) :
    Filled start inputs device (n + 1) := by
  intro pending since after
  have here := List.getElem?_eq_getElem inside
  rw [slotAt_succ device here] at after
  -- The device keeps what it held, and the input brings it nothing with a flag.
  have keep (same : start.slotAt inputs device n = some ⟨.buffering pending, since⟩)
      (idle : ∀ frame, pushed? inputs device n = some frame →
        frame.valid = true ∧ frame.header.flag? = none) :
      ∃ parts frames, Gathered start inputs device (n + 1) parts frames ∧ Holds pending frames ∧
        ∀ frame ∈ frames, frame.header.flag? = some .fragment := by
    obtain ⟨parts, frames, gathered, holds, fragments⟩ := filled _ _ same
    have known : start.slotAt inputs device n ≠ none := by
      rw [same]
      exact Option.some_ne_none _
    exact ⟨parts, frames, gathered.pass known idle, holds, fragments⟩
  cases input : inputs[n] with
  | evict now =>
    rw [input] at here after
    apply keep
    · exact (Option.filter_eq_some_iff.1 after).1
    · simp [pushed?, here]
  | push other frame now =>
    rw [input] at here after
    have pushed : pushed? inputs device n = _ := pushed?_of_push here
    by_cases same : other = device
    · simp only [Input.onSlot, same, if_true] at after pushed
      have taken := Slot.pushed (start.slotAt inputs device n) frame now
      rw [after] at taken
      generalize slot : start.slotAt inputs device n = before at taken
      generalize (Slot.push _ _ _).1 = event at taken
      cases taken with
      | unknownFlag valid flag =>
        apply keep slot
        intro brought isBrought
        rw [pushed, Option.some.injEq] at isBrought
        rw [← isBrought]
        exact ⟨valid, flag⟩
      | buffered valid flag next =>
        rw [← slot] at next
        obtain ⟨parts, frames, gathered, holds, fragments⟩ := filled.join pushed valid next
        refine ⟨_, _, gathered, holds, ?_⟩
        intro member isMember
        rcases List.mem_append.1 isMember with earlier | new
        · exact fragments member earlier
        · rw [List.mem_singleton.1 new]
          exact flag
    · simp only [Input.onSlot, same, if_false] at after pushed
      apply keep after
      simp [pushed]

theorem filled (empty : start.slots.get? device = none) {n : Nat} (inside : n ≤ inputs.length) :
    Filled start inputs device n := by
  induction n with
  | zero =>
    intro pending since here
    rw [slotAt_zero, empty] at here
    cases here
  | succ n ih => exact (ih (Nat.le_of_succ_le inside)).succ inside

/-! ## Completing -/

theorem CompletesAt.pushed {k : Nat} {frame : VerifiedFrame} {utterance : Utterance}
    (h : CompletesAt start inputs k device frame utterance) :
    pushed? inputs device k = some frame := by
  obtain ⟨now, here, -⟩ := h
  exact pushed?_eq_some_iff.2 ⟨now, here⟩

theorem CompletesAt.full_or_last {k : Nat} {frame : VerifiedFrame} {utterance : Utterance}
    (h : CompletesAt start inputs k device frame utterance) :
    frame.valid = true ∧
    ((frame.header.flag? = some .full ∧ utterance = ⟨frame.header, frame.payload, 1⟩) ∨
      (frame.header.flag? = some .last ∧ ∃ pending,
        Slot.Continues frame.header (start.slotAt inputs device k) pending ∧
        utterance = (pending.extend frame.header.sequence frame.payload).toUtterance)) := by
  obtain ⟨now, -, complete⟩ := h
  have taken := Slot.pushed (start.slotAt inputs device k) frame now
  have event : (Slot.push (start.slotAt inputs device k) frame now).1 = .complete utterance :=
    complete
  rw [event] at taken
  generalize (Slot.push _ _ _).2 = after at taken
  generalize start.slotAt inputs device k = before at taken ⊢
  cases taken with
  | full valid flag => exact ⟨valid, Or.inl ⟨flag, rfl⟩⟩
  | completed valid flag next => exact ⟨valid, Or.inr ⟨flag, _, next, rfl⟩⟩

theorem CompletesAt.full_or_joined {k : Nat} {frame : VerifiedFrame} {utterance : Utterance}
    (empty : start.slots.get? device = none)
    (h : CompletesAt start inputs k device frame utterance) :
    (frame.valid = true ∧ frame.header.flag? = some .full ∧
      utterance = ⟨frame.header, frame.payload, 1⟩) ∨
    (frame.valid = true ∧ frame.header.flag? = some .last ∧
      ∃ parts frames, Joined start inputs device k parts frames utterance) := by
  obtain ⟨valid, ⟨flag, rfl⟩ | ⟨flag, pending, next, rfl⟩⟩ := h.full_or_last
  · exact Or.inl ⟨valid, flag, rfl⟩
  refine Or.inr ⟨valid, flag, ?_⟩
  obtain ⟨now, here, -⟩ := id h
  have inside : k ≤ inputs.length := Nat.le_of_lt (List.getElem?_eq_some_iff.1 here).1
  obtain ⟨parts, frames, gathered, holds, fragments⟩ :=
    (filled empty inside).join h.pushed valid next
  refine ⟨_, _, { gathered with
    closes := by simp
    flags := ?_
    header := holds.header
    audio := holds.audio
    count := holds.count }⟩
  simp only [List.map_append, List.map_cons, List.map_nil, flag, List.length_append,
    List.length_cons, List.length_nil, Nat.zero_add, Nat.add_sub_cancel]
  rw [List.append_cancel_right_eq, List.eq_replicate_iff]
  refine ⟨by simp, ?_⟩
  intro value member
  obtain ⟨fragment, isFragment, rfl⟩ := List.mem_map.1 member
  exact fragments fragment isFragment

theorem Joined.fragment_of_mem {k j : Nat} {parts : List Nat} {frames : List VerifiedFrame}
    {utterance : Utterance} {frame : VerifiedFrame}
    (h : Joined start inputs device k parts frames utterance) (member : j ∈ parts) (other : j ≠ k)
    (pushed : pushed? inputs device j = some frame) : frame.header.flag? = some .fragment := by
  obtain ⟨earlier, rfl⟩ := List.getLast?_eq_some_iff.1 h.closes
  have pushes := h.pushes
  have flags := h.flags
  rcases List.eq_nil_or_concat' frames with rfl | ⟨fragments, last, rfl⟩
  · simp at pushes
  simp only [List.map_append, List.map_cons, List.map_nil, List.length_append, List.length_cons,
    List.length_nil, Nat.zero_add, Nat.add_sub_cancel] at pushes flags
  have brought := (List.append_inj_left' pushes rfl)
  have marked := (List.append_inj_left' flags rfl)
  have before : j ∈ earlier := by simpa [other] using member
  have among : some frame ∈ fragments.map some := by
    rw [← brought, ← pushed]
    exact List.mem_map_of_mem before
  have isFragment : frame ∈ fragments := by simpa using among
  have listed : frame.header.flag? ∈ List.replicate fragments.length (some FrameFlag.fragment) := by
    rw [← marked]
    exact List.mem_map_of_mem isFragment
  exact List.eq_of_mem_replicate listed

theorem Joined.not_completesAt {k i j : Nat} {parts : List Nat} {frames : List VerifiedFrame}
    {utterance other : Utterance} {frame : VerifiedFrame}
    (h : Joined start inputs device k parts frames utterance) (member : i ∈ parts) (above : i ≤ j)
    (below : j < k) : ¬ CompletesAt start inputs j device frame other := by
  intro complete
  have pushed := complete.pushed
  have mark : frame.header.flag? = some .fragment ∨ frame.header.flag? = none := by
    rcases Nat.eq_or_lt_of_le above with rfl | after
    · exact Or.inl (h.fragment_of_mem member (Nat.ne_of_lt below) pushed)
    · rcases h.others i member j after (Nat.lt_succ_of_lt below) frame pushed with part | idle
      · exact Or.inl (h.fragment_of_mem part (Nat.ne_of_lt below) pushed)
      · exact Or.inr idle.2
  obtain ⟨-, ⟨flag, -⟩ | ⟨flag, -⟩⟩ := complete.full_or_last <;>
  · rw [flag] at mark
    simp at mark

theorem Contributes.le {i k : Nat} (h : Contributes start inputs i k) : i ≤ k := by
  obtain ⟨device, frame, utterance, -, ⟨-, rfl⟩ | ⟨parts, frames, joined, member⟩⟩ := h
  · exact Nat.le_refl i
  · exact Nat.le_of_lt_succ (joined.below i member)

theorem Contributes.pushed {i k : Nat} (h : Contributes start inputs i k) :
    ∃ device frame part utterance, CompletesAt start inputs k device frame utterance ∧
      pushed? inputs device i = some part := by
  obtain ⟨device, frame, utterance, complete, source⟩ := h
  rcases source with ⟨-, rfl⟩ | ⟨parts, frames, joined, member⟩
  · exact ⟨device, frame, frame, utterance, complete, complete.pushed⟩
  · have brought : pushed? inputs device i ∈ frames.map some := by
      rw [← joined.pushes]
      exact List.mem_map_of_mem member
    obtain ⟨part, -, isPart⟩ := List.mem_map.1 brought
    exact ⟨device, frame, part, utterance, complete, isPart.symm⟩

theorem Contributes.not_lt {i k l : Nat} (h : Contributes start inputs i k)
    (h' : Contributes start inputs i l) : ¬ k < l := by
  intro below
  have above := h.le
  obtain ⟨device, frame, part, utterance, complete, pushed⟩ := h.pushed
  obtain ⟨other, otherFrame, otherUtterance, -, ⟨-, rfl⟩ | ⟨parts, frames, joined, member⟩⟩ := h'
  · omega
  · have brought : pushed? inputs other i ∈ frames.map some := by
      rw [← joined.pushes]
      exact List.mem_map_of_mem member
    obtain ⟨otherPart, -, isPart⟩ := List.mem_map.1 brought
    obtain rfl := device_eq_of_pushed? pushed isPart.symm
    exact joined.not_completesAt member above below complete

/-- Every complete utterance is one intact frame, or is joined of intact frames in order. -/
theorem complete_sound (expiry : Duration) (inputs : List Input) :
    (∀ k device frame now utterance, inputs[k]? = some (.push device frame now) →
      (((Assembler.new expiry).after (inputs.take k)).push device frame now).1 =
        .complete utterance →
      (frame.valid = true ∧ frame.header.flag? = some .full ∧
        utterance = ⟨frame.header, frame.payload, 1⟩) ∨
      (frame.valid = true ∧ frame.header.flag? = some .last ∧
        ∃ parts frames, Joined (.new expiry) inputs device k parts frames utterance)) ∧
    (∀ i k l, Contributes (.new expiry) inputs i k → Contributes (.new expiry) inputs i l →
      k = l) := by
  constructor
  · intro k device frame now utterance here complete
    exact CompletesAt.full_or_joined (get?_new expiry device) ⟨now, here, complete⟩
  · intro i k l h h'
    rcases Nat.lt_trichotomy k l with below | same | below
    · exact absurd below (h.not_lt h')
    · exact same
    · exact absurd below (h'.not_lt h)

/-- An utterance of two pieces, with a frame of another device, an eviction and a frame without a
flag between them. -/
def interruptedInputs : List Input :=
  [.push "A" ⟨{ frameFlag := 2, sequence := 65535 }, [1, 2], true⟩ 0,
    .push "B" ⟨{ frameFlag := 3, sequence := 9 }, [9], true⟩ 1,
    .evict 1000000000,
    .push "A" ⟨{ sequence := 7 }, [7], true⟩ 2,
    .push "A" ⟨{ frameFlag := 3 }, [3], true⟩ 5]

theorem interrupted_joined :
    interruptedInputs[4]? = some (.push "A" ⟨{ frameFlag := 3 }, [3], true⟩ 5) ∧
    (((Assembler.new (.ofSeconds 1)).after (interruptedInputs.take 4)).push "A"
      ⟨{ frameFlag := 3 }, [3], true⟩ 5).1 =
        .complete ⟨{ frameFlag := 2, sequence := 65535 }, [1, 2, 3], 2⟩ ∧
    ∃ parts frames, Joined (.new (.ofSeconds 1)) interruptedInputs "A" 4 parts frames
      ⟨{ frameFlag := 2, sequence := 65535 }, [1, 2, 3], 2⟩ := by
  have complete : (((Assembler.new (.ofSeconds 1)).after (interruptedInputs.take 4)).push "A"
      ⟨{ frameFlag := 3 }, [3], true⟩ 5).1 =
        .complete ⟨{ frameFlag := 2, sequence := 65535 }, [1, 2, 3], 2⟩ := by decide +kernel
  refine ⟨rfl, complete, ?_⟩
  rcases (complete_sound (.ofSeconds 1) interruptedInputs).1 4 "A" _ 5 _ rfl complete with
    ⟨-, full, -⟩ | ⟨-, -, joined⟩
  · cases full
  · exact joined

end VoiceBus.Assembler
