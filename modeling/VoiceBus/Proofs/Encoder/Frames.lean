import VoiceBus.Encoder
import VoiceBus.Proofs.Frame.Image

/-! # The frames of a stream

What an encoder makes of pieces that fit, in closed form: frames numbered and stamped one after
the other, and the counters moved on by their number.
-/

namespace VoiceBus

/-- The frame as it arrives: what was sent of its header, and found intact. -/
def Frame.received (frame : Frame) : VerifiedFrame := ⟨frame.header.truncate, frame.payload, true⟩

namespace Encoder

def advance (encoder : Encoder) (count : Nat) : Encoder :=
  { encoder with
    sequence := encoder.sequence + UInt16.ofNat count
    readings := encoder.readings + count }

def frameOf (encoder : Encoder) (flag : FrameFlag) (data : Bytes) : Frame :=
  ⟨Frame.sealHeader (encoder.nextHeader flag) data, data⟩

def framesOf (encoder : Encoder) : List Bytes → List Frame
  | [] => []
  | piece :: rest =>
    encoder.frameOf (pieceFlag rest.isEmpty) piece :: (encoder.advance 1).framesOf rest

theorem advance_zero (encoder : Encoder) : encoder.advance 0 = encoder := by
  unfold advance
  simp

theorem advance_advance (encoder : Encoder) (first second : Nat) :
    (encoder.advance first).advance second = encoder.advance (first + second) := by
  unfold advance
  simp [UInt16.ofNat_add, UInt16.add_assoc, Nat.add_assoc]

/-! ## One frame -/

theorem nextFrame_of_length_le (encoder : Encoder) (flag : FrameFlag) {data : Bytes}
    (h : data.length ≤ Frame.maxPayload) :
    encoder.nextFrame flag data = (.ok (encoder.frameOf flag data), encoder.advance 1) := by
  unfold nextFrame
  rw [Frame.make_of_length_le h]
  rfl

theorem nextFrame_of_lt_length (encoder : Encoder) (flag : FrameFlag) {data : Bytes}
    (h : Frame.maxPayload < data.length) :
    encoder.nextFrame flag data =
      (.error (.payloadTooLarge data.length), { encoder with readings := encoder.readings + 1 }) := by
  unfold nextFrame
  rw [Frame.make_of_lt_length h]

theorem flag?_frameOf (encoder : Encoder) (flag : FrameFlag) (data : Bytes) :
    (encoder.frameOf flag data).received.header.flag? = some flag := by
  unfold Frame.received
  rw [Header.flag?_truncate]
  exact FrameFlag.ofBits?_bits flag

theorem verify_frameOf (encoder : Encoder) (flag : FrameFlag) {data : Bytes} (rest : Bytes)
    (h : data.length ≤ Frame.maxPayload) :
    Frame.verify ((encoder.frameOf flag data).encode ++ rest) =
      .ok (encoder.frameOf flag data).received := by
  unfold frameOf Frame.received
  rw [Frame.verify_assembled _ rest h, Frame.truncate_sealHeader]

/-! ## Pieces -/

theorem pieces_ne_nil (size : Nat) (data : Bytes) : pieces size data ≠ [] := by
  rw [pieces]
  split
  · simp
  · split <;> simp

theorem length_le_of_mem_pieces {size : Nat} {data piece : Bytes} (positive : 0 < size)
    (h : piece ∈ pieces size data) : piece.length ≤ size := by
  induction data using pieces.induct size with
  | case1 data cut =>
    rw [pieces, cut] at h
    rw [List.mem_singleton.1 h]
    have short := congrArg List.length cut
    simp only [List.length_drop, List.length_nil] at short
    omega
  | case2 data next rest cut zero => omega
  | case3 data next rest cut _ ih =>
    rw [pieces, cut] at h
    simp only [Nat.ne_of_gt positive, if_false, List.mem_cons] at h
    rcases h with rfl | later
    · exact List.length_take_le size data
    · exact ih later

theorem length_le_maxPayload_of_mem_pieces {size : Nat} {data : Bytes}
    (h : Frame.IsPieceSize size) : ∀ piece ∈ pieces size data, piece.length ≤ Frame.maxPayload := by
  intro piece member
  exact Nat.le_trans (length_le_of_mem_pieces h.1 member) h.2

theorem flatten_take_pieces {size : Nat} (positive : 0 < size) (data : Bytes) (count : Nat) :
    ((pieces size data).take count).flatten = data.take (count * size) := by
  induction data using pieces.induct size generalizing count with
  | case1 data cut =>
    have short := congrArg List.length cut
    simp only [List.length_drop, List.length_nil] at short
    rw [pieces_of_length_le (by omega)]
    cases count with
    | zero => simp
    | succ count =>
      have all : data.length ≤ (count + 1) * size := by
        rw [Nat.succ_mul]
        omega
      rw [List.take_of_length_le all]
      simp
  | case2 data next rest cut zero => omega
  | case3 data next rest cut _ ih =>
    have long := congrArg List.length cut
    simp only [List.length_drop, List.length_cons] at long
    rw [pieces_of_lt_length positive (by omega)]
    cases count with
    | zero => simp
    | succ count =>
      rw [← cut] at ih
      rw [List.take_succ_cons, List.flatten_cons, ih, Nat.succ_mul, Nat.add_comm, List.take_add]

theorem length_pieces {size : Nat} (positive : 0 < size) (data : Bytes) :
    (pieces size data).length = max 1 ((data.length + size - 1) / size) := by
  induction data using pieces.induct size with
  | case1 data cut =>
    have short := congrArg List.length cut
    simp only [List.length_drop, List.length_nil] at short
    have few : (data.length + size - 1) / size < 2 := by
      rw [Nat.div_lt_iff_lt_mul positive]
      omega
    rw [pieces_of_length_le (by omega), List.length_singleton]
    omega
  | case2 data next rest cut zero => omega
  | case3 data next rest cut _ ih =>
    have long := congrArg List.length cut
    simp only [List.length_drop, List.length_cons] at long
    have once : (data.length + size - 1) / size = (data.length - 1) / size + 1 := by
      rw [← Nat.add_div_right _ positive]
      congr 1
      omega
    have more : 1 ≤ (data.length - 1) / size := by
      rw [Nat.le_div_iff_mul_le positive]
      omega
    have less : data.length - size + size - 1 = data.length - 1 := by omega
    rw [← cut, List.length_drop, less] at ih
    rw [pieces_of_lt_length positive (by omega), List.length_cons, ih, once]
    omega

theorem length_flatten_take_pieces {size count : Nat} (positive : 0 < size) (data : Bytes)
    (h : count < (pieces size data).length) :
    ((pieces size data).take count).flatten.length = count * size := by
  rw [flatten_take_pieces positive, List.length_take]
  rw [length_pieces positive] at h
  have enough : count = 0 ∨ count * size ≤ data.length := by
    by_cases none : count = 0
    · exact Or.inl none
    · have more : count + 1 ≤ (data.length + size - 1) / size := by omega
      rw [Nat.le_div_iff_mul_le positive, Nat.succ_mul] at more
      omega
  rcases enough with rfl | enough
  · simp
  · omega

/-! ## Many frames -/

theorem frames_eq_framesOf (encoder : Encoder) {pieces : List Bytes}
    (h : ∀ piece ∈ pieces, piece.length ≤ Frame.maxPayload) :
    encoder.frames pieces = (.ok (encoder.framesOf pieces), encoder.advance pieces.length) := by
  induction pieces generalizing encoder with
  | nil =>
    rw [List.length_nil, advance_zero]
    rfl
  | cons piece rest ih =>
    rw [List.forall_mem_cons] at h
    unfold frames
    rw [nextFrame_of_length_le encoder _ h.1]
    simp only [ih (encoder.advance 1) h.2, framesOf]
    rw [advance_advance, List.length_cons, Nat.add_comm]

theorem fragments_of_isPieceSize (encoder : Encoder) {size : Nat} (data : Bytes)
    (h : Frame.IsPieceSize size) :
    encoder.fragments size data =
      (.ok (encoder.framesOf (pieces size data)), encoder.advance (pieces size data).length) := by
  unfold fragments
  rw [if_pos h]
  exact frames_eq_framesOf encoder (length_le_maxPayload_of_mem_pieces h)

theorem fragments_of_not_isPieceSize (encoder : Encoder) {size : Nat} (data : Bytes)
    (h : ¬ Frame.IsPieceSize size) :
    encoder.fragments size data = (.error (.invalidFragmentSize size), encoder) := by
  unfold fragments
  rw [if_neg h]

theorem encodeFragments_of_isPieceSize (encoder : Encoder) {size : Nat} (data : Bytes)
    (h : Frame.IsPieceSize size) :
    (encoder.encodeFragments size data).1 =
      .ok ((encoder.framesOf (pieces size data)).map Frame.encode) := by
  unfold encodeFragments
  rw [fragments_of_isPieceSize encoder data h]
  rfl

theorem encodeFragments_of_not_isPieceSize (encoder : Encoder) {size : Nat} (data : Bytes)
    (h : ¬ Frame.IsPieceSize size) :
    (encoder.encodeFragments size data).1 = .error (.invalidFragmentSize size) := by
  unfold encodeFragments
  rw [fragments_of_not_isPieceSize encoder data h]
  rfl

@[simp] theorem length_framesOf (encoder : Encoder) (pieces : List Bytes) :
    (encoder.framesOf pieces).length = pieces.length := by
  induction pieces generalizing encoder with
  | nil => rfl
  | cons piece rest ih => rw [framesOf, List.length_cons, List.length_cons, ih]

@[simp] theorem map_payload_framesOf (encoder : Encoder) (pieces : List Bytes) :
    (encoder.framesOf pieces).map Frame.payload = pieces := by
  induction pieces generalizing encoder with
  | nil => rfl
  | cons piece rest ih =>
    rw [framesOf, List.map_cons, ih]
    rfl

theorem length_of_encodeFragments {encoder : Encoder} {size : Nat} {data : Bytes}
    {wires : List Bytes} (h : (encoder.encodeFragments size data).1 = .ok wires) :
    wires.length = max 1 ((data.length + size - 1) / size) := by
  by_cases fits : Frame.IsPieceSize size
  · rw [encodeFragments_of_isPieceSize encoder data fits] at h
    rw [← Except.ok.inj h, List.length_map, length_framesOf, length_pieces fits.1]
  · rw [encodeFragments_of_not_isPieceSize encoder data fits] at h
    cases h

theorem verify_of_mem_framesOf {encoder : Encoder} {pieces : List Bytes} {frame : Frame}
    (short : ∀ piece ∈ pieces, piece.length ≤ Frame.maxPayload)
    (h : frame ∈ encoder.framesOf pieces) (rest : Bytes) :
    Frame.verify (frame.encode ++ rest) = .ok frame.received := by
  induction pieces generalizing encoder with
  | nil => simp [framesOf] at h
  | cons piece others ih =>
    rw [List.forall_mem_cons] at short
    rw [framesOf, List.mem_cons] at h
    rcases h with rfl | later
    · exact verify_frameOf encoder _ rest short.1
    · exact ih short.2 later

theorem verify_encode_of_mem_framesOf {encoder : Encoder} {size : Nat} {data : Bytes}
    {frame : Frame} (h : Frame.IsPieceSize size)
    (member : frame ∈ encoder.framesOf (pieces size data)) :
    Frame.verify frame.encode = .ok frame.received := by
  have checked := verify_of_mem_framesOf (length_le_maxPayload_of_mem_pieces h) member []
  rwa [List.append_nil] at checked

end Encoder

end VoiceBus
