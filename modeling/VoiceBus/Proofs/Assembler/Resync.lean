import VoiceBus.Proofs.Assembler.Reassembly

/-! # Resynchronising

A device that a frame damaged discards until the end of an utterance arrives or the device is
forgotten. Nothing slips through meanwhile. Behind an end, whatever came before, an utterance
arrives whole.
-/

namespace VoiceBus

/-- The frame, of which this became, is corrupted or a fragment behind a gap. -/
def VerifiedFrame.Damages (frame : VerifiedFrame) (event : AssemblyEvent) : Prop :=
  frame.valid = false ∨ (frame.header.flag? = some .fragment ∧
    ∃ expected got, event = .rejected (.sequenceGap expected got))

namespace Slot

theorem isDiscarding_push (slot : Option Slot) (frame : VerifiedFrame) (now : Nat) :
    (push slot frame now).2.any isDiscarding = true ↔
      frame.Damages (push slot frame now).1 ∨ (slot.any isDiscarding = true ∧ ¬ frame.IsEnd) := by
  have taken := pushed slot frame now
  unfold VerifiedFrame.Damages VerifiedFrame.IsEnd
  generalize (push slot frame now).1 = event at taken ⊢
  generalize (push slot frame now).2 = after at taken ⊢
  cases taken with
  | corrupted valid => simp [valid, isDiscarding, isBuffering]
  | unknownFlag valid flag => simp [valid, flag]
  | full valid flag => simp [valid, flag]
  | buffered valid flag next => cases next <;> simp [valid, flag, isDiscarding, isBuffering]
  | completed valid flag next => simp [valid, flag]
  | gapFragment valid flag gap => simp [valid, flag, isDiscarding, isBuffering]
  | gapLast valid flag gap => simp [valid, flag]
  | resyncing valid flag => simp [valid, flag, isDiscarding, isBuffering]
  | resynced valid flag => simp [valid, flag]

theorem isRejected_push {slot : Option Slot} (discards : slot.any isDiscarding = true)
    {frame : VerifiedFrame} (now : Nat)
    (part : frame.valid = true → frame.header.flag? ≠ some .full) :
    (push slot frame now).1.IsRejected := by
  have taken := pushed slot frame now
  generalize (push slot frame now).1 = event at taken ⊢
  generalize (push slot frame now).2 = after at taken
  cases taken with
  | full valid flag => exact absurd flag (part valid)
  | buffered valid flag next => cases next <;> cases discards
  | completed valid flag next => cases next <;> cases discards
  | _ => exact ⟨_, rfl⟩

theorem push_last_discarding {slot : Option Slot} (discards : slot.any isDiscarding = true)
    {frame : VerifiedFrame} (now : Nat) (valid : frame.valid = true)
    (flag : frame.header.flag? = some .last) :
    push slot frame now = (.rejected .resyncing, none) := by
  rcases slot with _ | ⟨pending | _, since⟩
  · cases discards
  · cases discards
  · exact (Pushed.resynced valid flag).eq_push

end Slot

namespace Assembler

variable {start : Assembler} {inputs : List Input} {device : String}

/-- The push at `k` damages what the device is sending. -/
def DamagedAt (start : Assembler) (inputs : List Input) (device : String) (k : Nat) : Prop :=
  ∃ frame now, inputs[k]? = some (.push device frame now) ∧
    frame.Damages ((start.after (inputs.take k)).push device frame now).1

/-- The push at `k` ends an utterance of the device. -/
def EndedAt (inputs : List Input) (device : String) (k : Nat) : Prop :=
  ∃ frame now, inputs[k]? = some (.push device frame now) ∧ frame.IsEnd

theorem any_filter_iff {α : Type} (value : Option α) (keep test : α → Bool) :
    (value.filter keep).any test = true ↔
      value.any test = true ∧ ¬ (value ≠ none ∧ value.filter keep = none) := by
  cases value with
  | none => simp
  | some a => by_cases kept : keep a = true <;> simp [Option.filter, kept]

theorem event_push (start : Assembler) (inputs : List Input) (device : String) (n : Nat)
    (frame : VerifiedFrame) (now : Nat) :
    ((start.after (inputs.take n)).push device frame now).1 =
      (Slot.push (start.slotAt inputs device n) frame now).1 := rfl

theorem isDiscarding_succ {n : Nat} (inside : n < inputs.length) :
    (start.slotAt inputs device (n + 1)).any Slot.isDiscarding = true ↔
      DamagedAt start inputs device n ∨
        ((start.slotAt inputs device n).any Slot.isDiscarding = true ∧
          ¬ EndedAt inputs device n ∧ ¬ EvictedAt start inputs device n) := by
  have here := List.getElem?_eq_getElem inside
  have step : start.slotAt inputs device (n + 1) = _ := slotAt_succ device here
  unfold DamagedAt EndedAt EvictedAt
  cases input : inputs[n] with
  | evict now =>
    rw [input] at here step
    rw [step]
    simp only [here, Input.onSlot, any_filter_iff, Option.some.injEq, reduceCtorEq, false_and,
      exists_false, not_false_eq_true, true_and, false_or, Input.evict.injEq, exists_eq']
  | push other frame now =>
    rw [input] at here step
    rw [step]
    by_cases same : other = device
    · subst same
      have pushed := Slot.isDiscarding_push (start.slotAt inputs other n) frame now
      rw [← event_push] at pushed
      simpa [here, Input.onSlot] using pushed
    · simp [here, Input.onSlot, same]

theorem isDiscarding_slotAt (empty : start.slots.get? device = none) {n : Nat}
    (inside : n ≤ inputs.length) :
    (start.slotAt inputs device n).any Slot.isDiscarding = true ↔
      ∃ k < n, DamagedAt start inputs device k ∧ ∀ j, k < j → j < n →
        ¬ DamagedAt start inputs device j ∧ ¬ EndedAt inputs device j ∧
          ¬ EvictedAt start inputs device j := by
  induction n with
  | zero => simp [empty]
  | succ n ih =>
    rw [isDiscarding_succ inside, ih (Nat.le_of_succ_le inside)]
    -- an input that damages is itself the latest one
    by_cases damaged : DamagedAt start inputs device n
    · exact iff_of_true (Or.inl damaged)
        ⟨n, Nat.lt_succ_self n, damaged, fun j above upTo => by omega⟩
    constructor
    · rintro (new | ⟨⟨k, below, first, since⟩, kept⟩)
      · exact absurd new damaged
      · refine ⟨k, Nat.lt_succ_of_lt below, first, ?_⟩
        intro j above upTo
        rcases Nat.lt_succ_iff_lt_or_eq.1 upTo with before | rfl
        · exact since j above before
        · exact ⟨damaged, kept⟩
    · rintro ⟨k, below, first, since⟩
      rcases Nat.lt_succ_iff_lt_or_eq.1 below with before | rfl
      · exact Or.inr ⟨⟨k, before, first, fun j above upTo => since j above (by omega)⟩,
          (since n before (Nat.lt_succ_self n)).2⟩
      · exact absurd first damaged

/-- A device resyncs from a damage up to an end of an utterance, and what follows comes out. -/
theorem resyncs_until_end (expiry : Duration) (inputs : List Input) (device : String) :
    (((Assembler.new expiry).after inputs).isResyncing device = true ↔
      ∃ k < inputs.length, DamagedAt (.new expiry) inputs device k ∧
        ∀ j, k < j → j < inputs.length → ¬ DamagedAt (.new expiry) inputs device j ∧
          ¬ EndedAt inputs device j ∧ ¬ EvictedAt (.new expiry) inputs device j) ∧
    (((Assembler.new expiry).after inputs).isResyncing device = true → ∀ frame now,
      ((frame.valid = true → frame.header.flag? ≠ some .full) →
        (((Assembler.new expiry).after inputs).push device frame now).1.IsRejected) ∧
      (frame.valid = true → frame.header.flag? = some .last →
        (((Assembler.new expiry).after inputs).push device frame now).1 =
          .rejected .resyncing)) ∧
    ∀ frame now, frame.IsEnd → ∀ freed,
      (((Assembler.new expiry).after inputs).push device frame now).2 = freed →
      freed.slots.get? device = none ∧ freed.isResyncing device = false ∧
      ∀ (encoder : Encoder) (size : Nat) (data : Bytes), Frame.IsPieceSize size →
        ∃ wires frames, (encoder.encodeFragments size data).1 = .ok wires ∧
          wires.map Frame.verify = frames.map .ok ∧
          ∃ head ∈ frames.head?, ∀ more, (arrivals device more).map Prod.fst = frames →
            (∀ k, ¬ EvictedAt freed more device k) →
            ∃ before, freed.eventsOf device more =
                before ++ [.complete ⟨head.header, data, frames.length⟩] ∧
              ∀ event ∈ before, event.IsBuffered := by
  refine ⟨?_, ?_, ?_⟩
  · have whole := isDiscarding_slotAt (get?_new expiry device) (Nat.le_refl inputs.length)
    rw [slotAt, List.take_length] at whole
    exact whole
  · intro discards frame now
    exact ⟨Slot.isRejected_push discards now, fun valid flag =>
      congrArg Prod.fst (Slot.push_last_discarding discards now valid flag)⟩
  · rintro frame now ends freed rfl
    have fresh : (((Assembler.new expiry).after inputs).push device frame now).2.slots.get?
        device = none := by
      rw [get?_push_self]
      exact Slot.push_end _ now ends
    refine ⟨fresh, by simp [isResyncing, fresh], ?_⟩
    intro encoder size data fits
    have encoded := Encoder.encodeFragments_of_isPieceSize encoder data fits
    obtain ⟨-, frames, checked, utterance, payloads⟩ :=
      Encoder.received_of_encodeFragments encoded
    obtain ⟨head, isHead, -⟩ := utterance.head
    refine ⟨_, frames, encoded, checked, head, isHead, ?_⟩
    intro more all kept
    obtain ⟨head', isHead', before, joined, buffered, -⟩ := Slot.events_whole utterance all
    obtain rfl := Option.mem_unique isHead isHead'
    rw [List.flatMap_def, payloads, Encoder.flatten_pieces] at joined
    obtain ⟨-, events⟩ := seen_unless_evicted kept
    rw [fresh, joined] at events
    exact ⟨before, events, buffered⟩

/-- A gap, a frame without a flag and a corrupted one, an eviction of another device, and a fragment
that comes after all of them. -/
def damagedRun : List Input :=
  [.push "A" ⟨{ frameFlag := 2, sequence := 5 }, [1], true⟩ 0,
    .push "B" ⟨{ frameFlag := 2 }, [9], true⟩ 1,
    .push "A" ⟨{ frameFlag := 2, sequence := 7 }, [2], true⟩ 900000000,
    .push "A" ⟨{ sequence := 8 }, [7], true⟩ 900000001,
    .push "A" ⟨{ frameFlag := 1, sequence := 8 }, [8], false⟩ 900000002,
    .evict 1000000002,
    .push "A" ⟨{ frameFlag := 2, sequence := 9 }, [3], true⟩ 1000000003]

theorem damagedRun_resyncs :
    ((Assembler.new (.ofSeconds 1)).after damagedRun).isResyncing "A" = true ∧
    (((Assembler.new (.ofSeconds 1)).after damagedRun).push "A"
      ⟨{ frameFlag := 3, sequence := 10 }, [4], true⟩ 1000000004).1 = .rejected .resyncing ∧
    ∃ wires first second,
      (Encoder.encodeFragments { audio := {}, sequence := 65535, clock := fun _ => 7 } 2
        [1, 2, 3]).1 = .ok wires ∧
      wires.map Frame.verify = [.ok first, .ok second] ∧
      ((((Assembler.new (.ofSeconds 1)).after damagedRun).push "A"
        ⟨{ frameFlag := 3, sequence := 10 }, [4], true⟩ 1000000004).2.eventsOf "A"
          [.push "A" first 3, .evict 0, .push "B" second 4, .push "A" second 5]).getLast? =
        some (.complete ⟨first.header, [1, 2, 3], 2⟩) := by
  obtain ⟨-, rejects, ends⟩ := resyncs_until_end (.ofSeconds 1) damagedRun "A"
  have discards : ((Assembler.new (.ofSeconds 1)).after damagedRun).isResyncing "A" = true := by
    decide +kernel
  obtain ⟨-, -, behind⟩ := ends ⟨{ frameFlag := 3, sequence := 10 }, [4], true⟩ 1000000004
    ⟨rfl, Or.inl rfl⟩ _ rfl
  obtain ⟨wires, frames, encoded, checked, head, isHead, joined⟩ := behind
    { audio := {}, sequence := 65535, clock := fun _ => 7 } 2 [1, 2, 3] (by decide)
  have count : frames.length = 2 := by
    have same := congrArg List.length checked
    rw [List.length_map, List.length_map, Encoder.length_of_encodeFragments encoded] at same
    exact same.symm
  obtain ⟨first, second, rfl⟩ := List.length_eq_two.1 count
  obtain rfl := Option.some.inj isHead
  have kept (start : Assembler) (k : Nat) : ¬ EvictedAt start
      [.push "A" first 3, .evict 0, .push "B" second 4, .push "A" second 5] "A" k := by
    rintro ⟨⟨now, here⟩, known, gone⟩
    obtain rfl : now = 0 := by simpa using List.mem_of_getElem? here
    rw [slotAt_succ "A" here, onSlot_evict fun _ _ => Nat.zero_le _] at gone
    exact known gone
  obtain ⟨before, events, -⟩ := joined _ rfl (kept _)
  refine ⟨discards, (rejects discards _ _).2 rfl rfl, wires, first, second, encoded, checked, ?_⟩
  rw [events, List.getLast?_concat]
  rfl

end Assembler

end VoiceBus
