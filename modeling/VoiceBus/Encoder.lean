import VoiceBus.Frame.Basic

/-! # Turning a stream of sound into frames

An encoder numbers its frames and stamps each with a reading of its clock. The number advances by
one for every frame that is made and wraps; a frame that cannot be made leaves it as it was.
-/

namespace VoiceBus

/-- The state of one stream. -/
structure Encoder where
  audio : AudioParams
  sequence : UInt16 := 0
  /-- The readings that the clock gives, in order. -/
  clock : Nat → UInt16
  /-- How many readings have been taken. -/
  readings : Nat := 0

namespace Encoder

def describe (encoder : Encoder) : String :=
  "FrameEncoder \x7b config: " ++ encoder.audio.describe ++ ", sequence: " ++
    toString encoder.sequence ++ ", .. \x7d"

def withSequence (sequence : UInt16) (encoder : Encoder) : Encoder := { encoder with sequence }

def reset (encoder : Encoder) : Encoder := encoder.withSequence 0

/-- The header of the next frame, its length and checksum open. -/
def nextHeader (encoder : Encoder) (flag : FrameFlag) : Header :=
  Header.new encoder.audio flag encoder.sequence (encoder.clock encoder.readings)

/-- Makes the next frame. The clock is read also when the data is too long. -/
def nextFrame (encoder : Encoder) (flag : FrameFlag) (data : Bytes) :
    Except FrameError Frame × Encoder :=
  let read := { encoder with readings := encoder.readings + 1 }
  match Frame.make (encoder.nextHeader flag) data with
  | .ok frame => (.ok frame, { read with sequence := encoder.sequence + 1 })
  | .error error => (.error error, read)

/-! ## Pieces -/

/-- Data cut into pieces of `size` bytes, the last one shorter if need be. There is always at
least one piece. -/
def pieces (size : Nat) (data : Bytes) : List Bytes :=
  match _cut : data.drop size with
  | [] => [data]
  | next :: rest => if size = 0 then [data] else data.take size :: pieces size (next :: rest)
termination_by data.length
decreasing_by
  have shorter := congrArg List.length _cut
  simp only [List.length_drop, List.length_cons] at shorter
  simp only [List.length_cons]
  omega

theorem pieces_of_length_le {size : Nat} {data : Bytes} (h : data.length ≤ size) :
    pieces size data = [data] := by
  rw [pieces]
  split
  next => rfl
  next cut =>
    rw [List.drop_eq_nil_of_le h] at cut
    cases cut

theorem pieces_of_lt_length {size : Nat} {data : Bytes} (positive : 0 < size)
    (h : size < data.length) :
    pieces size data = data.take size :: pieces size (data.drop size) := by
  conv => lhs; rw [pieces]
  split
  next cut =>
    have short := congrArg List.length cut
    simp only [List.length_drop, List.length_nil] at short
    omega
  next next rest cut => rw [if_neg (by omega), cut]

theorem flatten_pieces (size : Nat) (data : Bytes) : (pieces size data).flatten = data := by
  induction data using pieces.induct size with
  | case1 data cut => rw [pieces, cut]; simp
  | case2 data next rest cut zero => rw [pieces, cut]; simp [zero]
  | case3 data next rest cut positive ih =>
    rw [pieces, cut]
    simp only [positive, if_false, List.flatten_cons, ih]
    rw [← cut, List.take_append_drop]

def pieceFlag (isLast : Bool) : FrameFlag := if isLast then .last else .fragment

/-- Makes a frame of each piece, the last one closing the utterance. -/
def frames (encoder : Encoder) : List Bytes → Except FrameError (List Frame) × Encoder
  | [] => (.ok [], encoder)
  | piece :: rest =>
    match encoder.nextFrame (pieceFlag rest.isEmpty) piece with
    | (.error error, encoder) => (.error error, encoder)
    | (.ok frame, encoder) =>
      match encoder.frames rest with
      | (.error error, encoder) => (.error error, encoder)
      | (.ok others, encoder) => (.ok (frame :: others), encoder)

/-- Makes the frames of an utterance cut into pieces of at most `size` bytes. -/
def fragments (encoder : Encoder) (size : Nat) (data : Bytes) :
    Except FrameError (List Frame) × Encoder :=
  if Frame.IsPieceSize size then encoder.frames (pieces size data)
  else (.error (.invalidFragmentSize size), encoder)

/-! ## Wire bytes -/

def encodeFull (encoder : Encoder) (data : Bytes) : Except FrameError Bytes × Encoder :=
  let (frame, encoder) := encoder.nextFrame .full data
  (frame.map Frame.encode, encoder)

def encodePiece (encoder : Encoder) (isLast : Bool) (data : Bytes) :
    Except FrameError Bytes × Encoder :=
  let (frame, encoder) := encoder.nextFrame (pieceFlag isLast) data
  (frame.map Frame.encode, encoder)

def encodeFragments (encoder : Encoder) (size : Nat) (data : Bytes) :
    Except FrameError (List Bytes) × Encoder :=
  let (frames, encoder) := encoder.fragments size data
  (frames.map (·.map Frame.encode), encoder)

end Encoder

end VoiceBus
