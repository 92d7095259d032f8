import Mathlib.Data.List.Forall2
import VoiceBus.Proofs.Assembler.Outcome
import VoiceBus.Proofs.Encoder.Frames

/-! # Calls one after the other

A call sends one full frame, or an utterance in pieces, or nothing when it fails. However frames
are lost or damaged, each call gives at most one utterance, an end of its own frames, and the
utterances come in the order of the calls.
-/

namespace VoiceBus

/-- The frames of one call. -/
inductive IsCall : List VerifiedFrame → Prop
  | failed : IsCall []
  | full {frame : VerifiedFrame} (valid : frame.valid = true)
    (flag : frame.header.flag? = some .full) : IsCall [frame]
  | stream {first : UInt16} {frames : List VerifiedFrame} (utterance : IsUtterance first frames) :
    IsCall frames

/-- An utterance is what the last frames of a call make. -/
def Utterance.IsEndOf (utterance : Utterance) (call : List VerifiedFrame) : Prop :=
  ∃ tail, tail <:+ call ∧ Utterance.ofFrames? tail = some utterance

theorem IsCall.flag_getLast? {call : List VerifiedFrame} {final : VerifiedFrame} (h : IsCall call)
    (ends : call.getLast? = some final) :
    final.header.flag? = some .full ∨ final.header.flag? = some .last := by
  cases h with
  | failed => cases ends
  | full valid flag =>
    obtain rfl := Option.some.inj ends
    exact Or.inl flag
  | stream utterance => exact Or.inr (utterance.flag_getLast? ends)

namespace Slot

variable {slot : Option Slot} {later : List UInt16} {call : List VerifiedFrame}
  {arrived : List (VerifiedFrame × Nat)}

theorem completed_append (slot : Option Slot) (before after : List (VerifiedFrame × Nat)) :
    completed slot (before ++ after) =
      completed slot before ++ completed (afterAll slot before) after := by
  induction before generalizing slot with
  | nil => rfl
  | cons arrival rest ih =>
    obtain ⟨frame, now⟩ := arrival
    obtain ⟨whole, -⟩ := completed_cons (pushed slot frame now) (rest ++ after)
    obtain ⟨out, left⟩ := completed_cons (pushed slot frame now) rest
    rw [List.cons_append, whole, ih, out, left, List.append_assoc]

/-- A slot gives out nothing of a call, or one utterance that is an end of it. -/
def GivesOne (later : List UInt16) (slot : Option Slot) (arrived : List (VerifiedFrame × Nat))
    (call : List VerifiedFrame) : Prop :=
  Gives later slot arrived [] ∨
    ∃ utterance, utterance.IsEndOf call ∧ Gives later slot arrived [utterance]

theorem full_gives {frame : VerifiedFrame} (valid : frame.valid = true)
    (flag : frame.header.flag? = some .full) (delivered : Delivered [frame] arrived)
    (settled : Settled (frame.header.sequence :: later) slot) :
    GivesOne later slot arrived [frame] := by
  cases delivered with
  | intact now others =>
    cases others
    have made : Utterance.ofFrames? [frame] = some ⟨frame.header, frame.payload, 1⟩ := by
      simp [Utterance.ofFrames?]
    exact Or.inr ⟨_, ⟨[frame], List.suffix_rfl, made⟩,
      .complete (.full valid flag) (.nil (Or.inl rfl))⟩
  | lost others =>
    cases others
    exact Or.inl (.nil (settled.imp id Spoiled.tail))
  | damaged now bad others =>
    cases others
    exact Or.inl (.silent (.corrupted bad) (.nil (Or.inr (.discarding now))))

theorem stream_gives {first : UInt16} (utterance : IsUtterance first call)
    (delivered : Delivered call arrived)
    (settled : Settled (call.map (·.header.sequence) ++ later) slot)
    (distinct : (call.map (·.header.sequence) ++ later).Nodup) :
    GivesOne later slot arrived call := by
  rcases settled with rfl | spoiled
  · have gives := idle_gives utterance delivered distinct
    by_cases suffix : arrived.map Prod.fst <:+ call
    · rw [if_pos suffix] at gives
      cases made : Utterance.ofFrames? (arrived.map Prod.fst) with
      | none =>
        rw [made] at gives
        exact Or.inl gives
      | some utterance =>
        rw [made] at gives
        exact Or.inr ⟨utterance, ⟨_, suffix, made⟩, gives⟩
    · rw [if_neg suffix] at gives
      exact Or.inl gives
  · exact Or.inl (Spoiled.gives utterance delivered spoiled)

theorem call_gives (sent : IsCall call) (delivered : Delivered call arrived)
    (settled : Settled (call.map (·.header.sequence) ++ later) slot)
    (distinct : (call.map (·.header.sequence) ++ later).Nodup) :
    GivesOne later slot arrived call := by
  cases sent with
  | failed =>
    cases delivered
    exact Or.inl (.nil settled)
  | full valid flag => exact full_gives valid flag delivered settled
  | stream utterance => exact stream_gives utterance delivered settled distinct

theorem calls_give {calls : List (List VerifiedFrame)} (each : ∀ call ∈ calls, IsCall call)
    (delivered : Delivered calls.flatten arrived)
    (settled : Settled (calls.flatten.map (·.header.sequence)) slot)
    (distinct : (calls.flatten.map (·.header.sequence)).Nodup) :
    ∃ picked, picked.Sublist calls ∧
      List.Forall₂ Utterance.IsEndOf (completed slot arrived) picked := by
  induction calls generalizing slot arrived with
  | nil =>
    cases delivered
    exact ⟨[], List.Sublist.slnil, .nil⟩
  | cons call rest ih =>
    rw [List.forall_mem_cons] at each
    rw [List.flatten_cons, List.map_append] at settled distinct
    obtain ⟨here, there, rfl, arrivals, others⟩ := Delivered.append delivered
    rw [completed_append]
    rcases call_gives each.1 arrivals settled distinct with gives | ⟨utterance, ends, gives⟩
    · obtain ⟨picked, chosen, made⟩ :=
        ih each.2 others gives.settled (List.nodup_append.1 distinct).2.1
      rw [gives.completed]
      exact ⟨picked, chosen.cons call, made⟩
    · obtain ⟨picked, chosen, made⟩ :=
        ih each.2 others gives.settled (List.nodup_append.1 distinct).2.1
      rw [gives.completed]
      exact ⟨call :: picked, chosen.cons_cons call, .cons ends made⟩

end Slot

/-! ## What an encoder sends -/

namespace Encoder

theorem isUtterance_framesOf (encoder : Encoder) {pieces : List Bytes} (nonempty : pieces ≠ []) :
    IsUtterance encoder.sequence ((encoder.framesOf pieces).map Frame.received) := by
  induction pieces generalizing encoder with
  | nil => exact absurd rfl nonempty
  | cons piece rest ih =>
    rw [framesOf, List.map_cons]
    cases rest with
    | nil => exact .last rfl (flag?_frameOf encoder _ piece)
    | cons next others =>
      have flag := flag?_frameOf encoder .fragment piece
      have later := ih (encoder.advance 1) (List.cons_ne_nil next others)
      exact .fragment rfl flag later

theorem received_of_encodeFragments {encoder : Encoder} {size : Nat} {data : Bytes}
    {wires : List Bytes} (h : (encoder.encodeFragments size data).1 = .ok wires) :
    Frame.IsPieceSize size ∧ ∃ frames : List VerifiedFrame,
      wires.map Frame.verify = frames.map .ok ∧ IsUtterance encoder.sequence frames ∧
      frames.map (·.payload) = pieces size data := by
  by_cases fits : Frame.IsPieceSize size
  · rw [encodeFragments_of_isPieceSize encoder data fits] at h
    obtain rfl := Except.ok.inj h
    refine ⟨fits, _, ?_, isUtterance_framesOf encoder (pieces_ne_nil size data), ?_⟩
    · rw [List.map_map, List.map_map]
      exact List.map_congr_left fun frame member => verify_encode_of_mem_framesOf fits member
    · rw [List.map_map]
      exact map_payload_framesOf encoder _
  · rw [encodeFragments_of_not_isPieceSize encoder data fits] at h
    cases h

end Encoder

end VoiceBus
