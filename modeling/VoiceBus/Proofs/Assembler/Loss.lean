import VoiceBus.Proofs.Assembler.Calls
import VoiceBus.Proofs.Assembler.Run

/-! # Utterances that lose frames

An utterance is cut into pieces, some of the frames are lost, and the rest is given to an assembler
that knows nothing. The assembler notices every loss behind a frame that arrived. It cannot notice
that the first frames are missing, since it opens an utterance at any frame.
-/

namespace VoiceBus

/-- The frames in bytes that arrive. Bytes that are no frame give none. -/
def receivedFrames (arrived : List (Bytes × Nat)) : List (VerifiedFrame × Nat) :=
  arrived.filterMap fun arrival => (Frame.verify arrival.1).toOption.map (·, arrival.2)

def Assembler.events (assembler : Assembler) (device : String) :
    List (VerifiedFrame × Nat) → List AssemblyEvent
  | [] => []
  | (frame, now) :: rest =>
    (assembler.push device frame now).1 :: (assembler.push device frame now).2.events device rest

theorem Assembler.events_eq (assembler : Assembler) (device : String)
    (arrived : List (VerifiedFrame × Nat)) :
    assembler.events device arrived = Slot.events (assembler.slots.get? device) arrived := by
  induction arrived generalizing assembler with
  | nil => rfl
  | cons arrival rest ih =>
    obtain ⟨frame, now⟩ := arrival
    rw [events, ih, get?_push_self]
    rfl

theorem filterMap_complete?_events (assembler : Assembler) (device : String)
    (arrived : List (VerifiedFrame × Nat)) :
    (assembler.events device arrived).filterMap AssemblyEvent.complete? =
      Slot.completed (assembler.slots.get? device) arrived := by
  rw [assembler.events_eq, Slot.completed_eq_filterMap]

theorem complete_mem_iff {events : List AssemblyEvent} {utterance : Utterance} :
    .complete utterance ∈ events ↔ utterance ∈ events.filterMap AssemblyEvent.complete? := by
  rw [List.mem_filterMap]
  constructor
  · intro member
    exact ⟨_, member, rfl⟩
  · rintro ⟨event, member, complete⟩
    cases event with
    | complete other =>
      obtain rfl := Option.some.inj complete
      exact member
    | buffered bytes => cases complete
    | rejected reason => cases complete

namespace Encoder

variable {encoder : Encoder} {size : Nat} {data : Bytes} {wires : List Bytes}

theorem isUtterance_of_encodeFragments (h : (encoder.encodeFragments size data).1 = .ok wires) :
    ∃ frames : List Frame, wires = frames.map Frame.encode ∧
      IsUtterance encoder.sequence (frames.map Frame.received) ∧
      ∀ frame ∈ frames, Frame.verify frame.encode = .ok frame.received := by
  by_cases fits : Frame.IsPieceSize size
  · rw [encodeFragments_of_isPieceSize encoder data fits] at h
    exact ⟨_, (Except.ok.inj h).symm, isUtterance_framesOf encoder (pieces_ne_nil size data),
      fun frame member => verify_encode_of_mem_framesOf fits member⟩
  · rw [encodeFragments_of_not_isPieceSize encoder data fits] at h
    cases h

end Encoder

theorem encode_toFrame_received (frame : Frame) :
    frame.received.toFrame.encode = frame.encode := by
  unfold Frame.received VerifiedFrame.toFrame Frame.encode
  rw [Header.encode_truncate]

theorem map_fst_receivedFrames (arrived : List (Bytes × Nat)) :
    (receivedFrames arrived).map Prod.fst =
      (arrived.map Prod.fst).filterMap fun wire => (Frame.verify wire).toOption := by
  induction arrived with
  | nil => rfl
  | cons arrival rest ih =>
    unfold receivedFrames at ih ⊢
    rw [List.map_cons, List.filterMap_cons, List.filterMap_cons]
    cases Frame.verify arrival.1 with
    | error error => exact ih
    | ok frame => exact congrArg (frame :: ·) ih

theorem filterMap_verify {frames : List Frame}
    (checked : ∀ frame ∈ frames, Frame.verify frame.encode = .ok frame.received) :
    (frames.map Frame.encode).filterMap (fun wire => (Frame.verify wire).toOption) =
      frames.map Frame.received := by
  induction frames with
  | nil => rfl
  | cons frame rest ih =>
    rw [List.forall_mem_cons] at checked
    rw [List.map_cons, List.filterMap_cons, checked.1, ih checked.2]
    rfl

theorem suffix_map_encode_iff {kept frames : List Frame} (selected : kept.Sublist frames)
    (checked : ∀ frame ∈ frames, Frame.verify frame.encode = .ok frame.received) :
    kept.map Frame.encode <:+ frames.map Frame.encode ↔
      kept.map Frame.received <:+ frames.map Frame.received := by
  constructor
  · intro suffix
    have read := suffix.filterMap fun wire => (Frame.verify wire).toOption
    rw [filterMap_verify checked, filterMap_verify] at read
    · exact read
    · exact fun frame member => checked frame (selected.subset member)
  · intro suffix
    have written := suffix.map fun frame => frame.toFrame.encode
    simp only [List.map_map, Function.comp_def, encode_toFrame_received] at written
    exact written

/-- What arrives of a stream completes exactly when only first frames are lost, not all. -/
theorem truncated_completes_iff {encoder : Encoder} {size : Nat} {data : Bytes}
    {wires : List Bytes} {arrived : List (Bytes × Nat)} (expiry : Duration) (device : String)
    (encoded : (encoder.encodeFragments size data).1 = .ok wires) (few : wires.length ≤ 65536)
    (remaining : (arrived.map Prod.fst).Sublist wires) :
    (∀ wire ∈ wires, ∃ frame, Frame.verify wire = .ok frame ∧ frame.valid = true) ∧
    ((∃ utterance, .complete utterance ∈
        (Assembler.new expiry).events device (receivedFrames arrived)) ↔
      arrived ≠ [] ∧ arrived.map Prod.fst <:+ wires) ∧
    ∀ utterance,
      .complete utterance ∈ (Assembler.new expiry).events device (receivedFrames arrived) →
      Utterance.ofFrames? ((receivedFrames arrived).map Prod.fst) = some utterance := by
  obtain ⟨frames, rfl, sent, checked⟩ := Encoder.isUtterance_of_encodeFragments encoded
  obtain ⟨kept, selected, names⟩ := List.sublist_map_iff.1 remaining
  have read : (receivedFrames arrived).map Prod.fst = kept.map Frame.received := by
    rw [map_fst_receivedFrames, names]
    exact filterMap_verify fun frame member => checked frame (selected.subset member)
  have delivered : Delivered (frames.map Frame.received) (receivedFrames arrived) := by
    apply Delivered.of_sublist
    rw [read]
    exact selected.map Frame.received
  have distinct :
      ((frames.map Frame.received).map (fun frame : VerifiedFrame => frame.header.sequence) ++
        []).Nodup := by
    rw [List.append_nil, sent.numbers]
    apply nodup_numbersFrom
    simpa using few
  have outcome := (Slot.idle_gives sent delivered distinct).completed
  have member (utterance : Utterance) :
      .complete utterance ∈ (Assembler.new expiry).events device (receivedFrames arrived) ↔
        arrived.map Prod.fst <:+ frames.map Frame.encode ∧
          Utterance.ofFrames? ((receivedFrames arrived).map Prod.fst) = some utterance := by
    rw [complete_mem_iff, filterMap_complete?_events, Assembler.get?_new, outcome, names,
      suffix_map_encode_iff selected checked, ← read]
    split
    · rename_i suffix
      rw [Option.mem_toList, and_iff_right suffix]
    · rename_i apart
      simp [apart]
  refine ⟨?_, ?_, fun utterance complete => ((member utterance).1 complete).2⟩
  · intro wire present
    obtain ⟨frame, among, rfl⟩ := List.mem_map.1 present
    exact ⟨frame.received, checked frame among, rfl⟩
  · constructor
    · rintro ⟨utterance, complete⟩
      obtain ⟨suffix, made⟩ := (member utterance).1 complete
      refine ⟨?_, suffix⟩
      rintro rfl
      cases made
    · rintro ⟨any, suffix⟩
      cases made : Utterance.ofFrames? ((receivedFrames arrived).map Prod.fst) with
      | some utterance => exact ⟨utterance, (member utterance).2 ⟨suffix, made⟩⟩
      | none =>
        unfold Utterance.ofFrames? at made
        rw [Option.map_eq_none_iff, List.head?_eq_none_iff, read, List.map_eq_nil_iff] at made
        rw [made, List.map_nil, List.map_eq_nil_iff] at names
        exact absurd names any

theorem headless_stream_completes :
    ∃ wires, (Encoder.encodeFragments { audio := {}, sequence := 65535, clock := fun _ => 7 } 2
        [1, 2, 3]).1 = .ok wires ∧ wires.length = 2 ∧
      ∃ utterance, .complete utterance ∈
        (Assembler.new ⟨120, 0⟩).events "A0001" (receivedFrames (wires.tail.map (·, 0))) := by
  have cut : Encoder.pieces 2 [1, 2, 3] = [[1, 2], [3]] := by
    rw [Encoder.pieces_of_lt_length (by decide) (by decide)]
    simp [Encoder.pieces_of_length_le]
  have encoded := Encoder.encodeFragments_of_isPieceSize
    { audio := {}, sequence := 65535, clock := fun _ => 7 } [1, 2, 3]
    (show Frame.IsPieceSize 2 by decide)
  rw [cut] at encoded
  refine ⟨_, encoded, rfl, ?_⟩
  have fst (wires : List Bytes) : (wires.map (·, 0)).map Prod.fst = wires := by
    rw [List.map_map]
    exact List.map_id wires
  apply (truncated_completes_iff ⟨120, 0⟩ "A0001" encoded (by decide) ?_).2.1.2
  · rw [fst]
    exact ⟨by decide, List.tail_suffix _⟩
  · rw [fst]
    exact List.tail_sublist _

end VoiceBus
