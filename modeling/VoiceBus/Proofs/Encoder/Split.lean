import Mathlib.Algebra.Order.Floor.Div
import VoiceBus.Proofs.Encoder.Requests

/-!
# Cutting data into frames

Data is cut all or nothing. A piece size that cannot be announced is refused and leaves the encoder
as it was. Otherwise the frames are as many as the data needs, each but the last one full, and the
last one alone closes the utterance.
-/

namespace VoiceBus

/-- Received frames that are data cut into pieces of `size` bytes, numbered from `first` on. -/
structure IsSplit (first : UInt16) (size : Nat) (data : Bytes) (frames : List VerifiedFrame) :
    Prop where
  /-- One frame for every begun piece, and one for no data. -/
  count : frames.length = max 1 (data.length ⌈/⌉ size)
  valid : ∀ frame ∈ frames, frame.valid = true
  payloads : frames.flatMap (·.payload) = data
  fragments : ∀ frame ∈ frames.dropLast,
    frame.header.flag? = some .fragment ∧ frame.payload.length = size
  /-- The last piece may be shorter, but it is empty for no data only. -/
  last : ∃ frame ∈ frames.getLast?, frame.header.flag? = some .last ∧
    frame.payload.length ≤ size ∧ (frame.payload = [] ↔ data = [])
  numbers : ∀ i frame, frames[i]? = some frame →
    frame.header.sequence.toNat = (first.toNat + i) % 65536

namespace Encoder

variable {size : Nat}

/-! ## Pieces by their place -/

theorem getElem_pieces (positive : 0 < size) (data : Bytes) {i : Nat}
    (h : i < (pieces size data).length) :
    (pieces size data)[i] = (data.drop (i * size)).take size := by
  have before := flatten_take_pieces positive data i
  have upTo := flatten_take_pieces positive data (i + 1)
  rw [List.take_succ_eq_append_getElem h, List.flatten_append, before, List.flatten_singleton,
    Nat.succ_mul, List.take_add] at upTo
  exact List.append_cancel_left upTo

theorem length_of_mem_dropLast_pieces (positive : 0 < size) {data piece : Bytes}
    (h : piece ∈ (pieces size data).dropLast) : piece.length = size := by
  obtain ⟨i, inside, rfl⟩ := List.getElem_of_mem h
  rw [List.length_dropLast] at inside
  have full := length_flatten_take_pieces positive data (by omega : i + 1 < _)
  rw [flatten_take_pieces positive, List.length_take, Nat.succ_mul] at full
  rw [List.getElem_dropLast, getElem_pieces positive, List.length_take, List.length_drop]
  omega

theorem length_of_getLast?_pieces (positive : 0 < size) {data piece : Bytes}
    (h : piece ∈ (pieces size data).getLast?) :
    piece.length ≤ size ∧ (piece = [] ↔ data = []) := by
  refine ⟨length_le_of_mem_pieces positive (List.mem_of_getLast? h), ?_⟩
  have some := List.length_pos_iff.2 (pieces_ne_nil size data)
  rw [List.getLast?_eq_getElem?, Option.mem_def, List.getElem?_eq_getElem (by omega),
    getElem_pieces positive] at h
  have begun : (data.length + size - 1) / size * size ≤ data.length + size - 1 :=
    Nat.div_mul_le_self _ _
  rw [← Option.some.inj h, ← List.length_eq_zero_iff, ← List.length_eq_zero_iff, List.length_take,
    List.length_drop, Nat.sub_one_mul, length_pieces positive]
  rcases Nat.le_total 1 ((data.length + size - 1) / size) with more | few
  · rw [Nat.max_eq_right more]
    omega
  · rw [Nat.max_eq_left few]
    omega

/-! ## The frames of the pieces -/

theorem isSplit_of_isUtterance (positive : 0 < size) {first : UInt16} {data : Bytes}
    {frames : List VerifiedFrame} (sent : IsUtterance first frames)
    (payloads : frames.map (·.payload) = pieces size data) : IsSplit first size data frames where
  count := by
    rw [← List.length_map (·.payload), payloads, length_pieces positive,
      Nat.ceilDiv_eq_add_pred_div]
  valid := sent.valid
  payloads := by rw [List.flatMap_def, payloads, flatten_pieces]
  fragments := by
    intro frame member
    constructor
    · have flag : frame.header.flag? ∈ (frames.map (·.header.flag?)).dropLast := by
        rw [← List.map_dropLast]
        exact List.mem_map_of_mem member
      rw [sent.flags, List.dropLast_concat] at flag
      exact List.eq_of_mem_replicate flag
    · have piece : frame.payload ∈ (pieces size data).dropLast := by
        rw [← payloads, ← List.map_dropLast]
        exact List.mem_map_of_mem member
      exact length_of_mem_dropLast_pieces positive piece
  last := by
    obtain ⟨frame, isLast⟩ :=
      Option.ne_none_iff_exists'.1 (mt List.getLast?_eq_none_iff.1 sent.ne_nil)
    refine ⟨frame, isLast, sent.flag_getLast? isLast, length_of_getLast?_pieces positive ?_⟩
    rw [← payloads, List.getLast?_map, isLast]
    rfl
  numbers := by
    intro i frame here
    have number : (frames.map (·.header.sequence))[i]? = some frame.header.sequence := by
      rw [List.getElem?_map, here]
      rfl
    rw [sent.numbers] at number
    rw [getElem?_numbersFrom number, toNat_add_ofNat]

/-- A piece size that cannot be announced is refused. With any other, data is cut in order. -/
theorem fragments_split (encoder : Encoder) (size : Nat) (data : Bytes) :
    (¬ (0 < size ∧ size ≤ 65535) →
      encoder.encodeFragments size data = (.error (.invalidFragmentSize size), encoder)) ∧
    (0 < size ∧ size ≤ 65535 → ∃ wires frames next,
      encoder.encodeFragments size data = (.ok wires, next) ∧
      wires.map Frame.verify = frames.map .ok ∧
      IsSplit encoder.sequence size data frames ∧
      next.sequence.toNat = (encoder.sequence.toNat + frames.length) % 65536 ∧
      next.readings = encoder.readings + frames.length ∧
      next.audio = encoder.audio ∧ next.clock = encoder.clock) := by
  constructor
  · intro outside
    unfold encodeFragments
    rw [fragments_of_not_isPieceSize encoder data outside]
    rfl
  · intro fits
    obtain ⟨-, frames, checked, sent, payloads⟩ :=
      received_of_encodeFragments (encodeFragments_of_isPieceSize encoder data fits)
    have count : (pieces size data).length = frames.length := by rw [← payloads, List.length_map]
    have next : (encoder.encodeFragments size data).2 = encoder.advance frames.length := by
      unfold encodeFragments
      rw [fragments_of_isPieceSize encoder data fits, count]
    exact ⟨_, frames, _, Prod.ext (encodeFragments_of_isPieceSize encoder data fits) next, checked,
      isSplit_of_isUtterance fits.1 sent payloads, toNat_add_ofNat _ _, rfl, rfl, rfl⟩

theorem full_pieces_split :
    (¬ (0 < 65536 ∧ 65536 ≤ 65535) ∧
      encodeFragments { audio := {}, sequence := 65535, clock := fun _ => 7 } 65536 [1, 2] =
        (.error (.invalidFragmentSize 65536),
          { audio := {}, sequence := 65535, clock := fun _ => 7 })) ∧
    (0 < 2 ∧ 2 ≤ 65535) ∧ ∃ wires first last next,
      encodeFragments { audio := {}, sequence := 65535, clock := fun _ => 7 } 2 [1, 2, 3, 4] =
        (.ok wires, next) ∧
      wires.map Frame.verify = [.ok first, .ok last] ∧
      first.payload = [1, 2] ∧ first.header.flag? = some .fragment ∧
      first.header.sequence = 65535 ∧
      last.payload = [3, 4] ∧ last.header.flag? = some .last ∧ last.header.sequence = 0 ∧
      next.sequence = 1 := by
  refine ⟨⟨by decide, (fragments_split _ 65536 [1, 2]).1 (by decide)⟩, by decide, ?_⟩
  obtain ⟨wires, frames, next, encoded, checked, split, sequence, -⟩ :=
    (fragments_split { audio := {}, sequence := 65535, clock := fun _ => 7 } 2 [1, 2, 3, 4]).2
      (by decide)
  obtain ⟨first, last, rfl⟩ := List.length_eq_two.1 (split.count.trans (by decide))
  obtain ⟨fragment, full⟩ := split.fragments first (List.mem_singleton_self first)
  obtain ⟨_, isLast, closes, -⟩ := split.last
  obtain rfl := Option.some.inj isLast
  have payloads : first.payload ++ last.payload = [1, 2] ++ [3, 4] := by
    simpa using split.payloads
  obtain ⟨front, back⟩ := List.append_inj payloads full
  rw [List.length_cons, List.length_singleton] at sequence
  exact ⟨wires, first, last, next, encoded, checked, front, fragment,
    UInt16.toNat_inj.1 (split.numbers 0 first rfl), back, closes,
    UInt16.toNat_inj.1 (split.numbers 1 last rfl), UInt16.toNat_inj.1 sequence⟩

end Encoder

end VoiceBus
