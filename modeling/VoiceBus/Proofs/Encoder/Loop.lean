import Mathlib.Algebra.Order.Floor.Div
import VoiceBus.Proofs.Encoder.Frames

/-!
# The loop over the blocks of an utterance

The loop counts before it cuts: data has as many blocks as its length divided by their size, rounded
up. It then goes through the blocks by their places, and the block at the last place closes the
utterance. The place and the blocks that are left always make the count, so that block is the one
with none behind it.
-/

namespace VoiceBus.Encoder

variable {size : Nat} {data : Bytes}

/-- Data in blocks of `size` bytes, the last one shorter if need be. No data has no block. -/
def blocks (size : Nat) : Bytes → List Bytes
  | [] => []
  | byte :: rest =>
    if size = 0 then [] else
      (byte :: rest).take size :: blocks size ((byte :: rest).drop size)
termination_by data => data.length
decreasing_by
  rw [List.length_drop, List.length_cons]
  omega

/-- Makes the frames of the blocks from place `i` on, behind those that are made. -/
def encodeBlocks (count i : Nat) (made : List Bytes) (encoder : Encoder) :
    List Bytes → Except FrameError (List Bytes) × Encoder
  | [] => (.ok made, encoder)
  | block :: rest =>
    match encoder.encodePiece (i + 1 == count) block with
    | (.error error, encoder) => (.error error, encoder)
    | (.ok wire, encoder) => encodeBlocks count (i + 1) (made ++ [wire]) encoder rest

/-- Encodes an utterance block by block, and tells the last one by its place. -/
def encodeCounted (encoder : Encoder) (size : Nat) (data : Bytes) :
    Except FrameError (List Bytes) × Encoder :=
  if size = 0 ∨ Frame.maxPayload < size then (.error (.invalidFragmentSize size), encoder)
  else if data.isEmpty then
    let (wire, encoder) := encoder.encodePiece true []
    (wire.map fun wire => [wire], encoder)
  else encodeBlocks (data.length ⌈/⌉ size) 0 [] encoder (blocks size data)

theorem blocks_of_ne_nil (positive : 0 < size) (some : data ≠ []) :
    blocks size data = data.take size :: blocks size (data.drop size) := by
  obtain ⟨byte, rest, rfl⟩ := List.exists_cons_of_ne_nil some
  rw [blocks, if_neg (Nat.ne_of_gt positive)]

theorem pieces_eq_blocks (positive : 0 < size) (some : data ≠ []) :
    pieces size data = blocks size data := by
  induction data using pieces.induct size with
  | case1 data cut =>
    rw [pieces_of_length_le (List.drop_eq_nil_iff.1 cut), blocks_of_ne_nil positive some, cut,
      blocks, List.take_of_length_le (List.drop_eq_nil_iff.1 cut)]
  | case2 data next rest cut zero => omega
  | case3 data next rest cut _ ih =>
    have long := congrArg List.length cut
    simp only [List.length_drop, List.length_cons] at long
    rw [pieces_of_lt_length positive (by omega), blocks_of_ne_nil positive some, cut,
      ih (List.cons_ne_nil next rest)]

theorem length_blocks (positive : 0 < size) (some : data ≠ []) :
    (blocks size data).length = data.length ⌈/⌉ size := by
  have begun : 1 ≤ (data.length + size - 1) / size := by
    have length := List.length_pos_iff.2 some
    rw [Nat.le_div_iff_mul_le positive]
    omega
  rw [← pieces_eq_blocks positive some, length_pieces positive, Nat.ceilDiv_eq_add_pred_div,
    Nat.max_eq_right begun]

theorem encodeBlocks_eq_frames (encoder : Encoder) (made left : List Bytes) {count i : Nat}
    (counted : i + left.length = count) :
    encodeBlocks count i made encoder left =
      ((encoder.frames left).1.map (made ++ ·.map Frame.encode), (encoder.frames left).2) := by
  induction left generalizing encoder made i with
  | nil => simp [encodeBlocks, frames, Except.map]
  | cons block rest ih =>
    -- with one place taken, the blocks behind this one are all that the count still allows
    have last : (i + 1 == count) = rest.isEmpty := by
      rw [← counted, List.length_cons]
      cases rest <;> simp
    rw [encodeBlocks, frames, encodePiece, last]
    rcases encoder.nextFrame (pieceFlag rest.isEmpty) block with ⟨_ | frame, next⟩
    · rfl
    · have later := ih next (made ++ [frame.encode])
        (by rw [← counted, List.length_cons]; omega : i + 1 + rest.length = count)
      simp only [Except.map, later]
      rcases next.frames rest with ⟨_ | frames, after⟩
      · rfl
      · simp

/-- The loop makes the frames that cutting into pieces makes. -/
theorem encodeCounted_eq_encodeFragments (encoder : Encoder) (size : Nat) (data : Bytes) :
    encoder.encodeCounted size data = encoder.encodeFragments size data := by
  unfold encodeCounted encodeFragments fragments
  by_cases fits : Frame.IsPieceSize size
  · have inside : ¬ (size = 0 ∨ Frame.maxPayload < size) := by
      rintro (zero | long)
      · exact Nat.ne_of_gt fits.1 zero
      · exact Nat.not_lt.2 fits.2 long
    rw [if_neg inside, if_pos fits]
    by_cases none : data = []
    · subst none
      rw [pieces_of_length_le (Nat.zero_le size)]
      simp only [List.isEmpty_nil, if_true, frames, encodePiece]
      rcases encoder.nextFrame (pieceFlag true) [] with ⟨_ | frame, next⟩ <;> rfl
    · rw [if_neg (by simpa using none), pieces_eq_blocks fits.1 none]
      exact encodeBlocks_eq_frames encoder [] _ (by rw [length_blocks fits.1 none, Nat.zero_add])
  · have outside : size = 0 ∨ Frame.maxPayload < size := by
      unfold Frame.IsPieceSize at fits
      omega
    rw [if_pos outside, if_neg fits]
    rfl

end VoiceBus.Encoder
