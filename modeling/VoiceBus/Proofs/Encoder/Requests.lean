import VoiceBus.Proofs.Assembler.Calls

/-!
# Requests to an encoder

An encoder numbers the frames that it makes one after the other and stamps each with a reading of
its own. Over a run of requests no number is left out or used twice between two settings of the
counter, and a request that fails uses none.
-/

namespace VoiceBus

theorem IsUtterance.flags {first : UInt16} {sent : List VerifiedFrame}
    (h : IsUtterance first sent) : sent.map (·.header.flag?) =
      List.replicate (sent.length - 1) (some .fragment) ++ [some .last] := by
  induction h with
  | last valid flag => simp [flag]
  | fragment valid flag others ih =>
    have more := List.length_pos_iff.2 others.ne_nil
    rw [List.map_cons, ih, flag, List.length_cons, Nat.add_sub_cancel, ← List.cons_append,
      ← List.replicate_succ, Nat.sub_add_cancel more]

namespace Encoder

/-- What can be asked of an encoder. -/
inductive Request
  | full (data : Bytes)
  | piece (isLast : Bool) (data : Bytes)
  | fragments (size : Nat) (data : Bytes)
  | frame (flag : FrameFlag) (data : Bytes)
  | reset
  | withSequence (sequence : UInt16)
  deriving DecidableEq, Repr

/-- What the encoder gives: a frame, or the bytes of frames. -/
inductive Answer
  | frame (frame : Frame)
  | wires (wires : List Bytes)
  | failed (error : FrameError)
  | done
  deriving DecidableEq, Repr

/-- The value that a request sets the counter to. -/
def Request.setting? : Request → Option UInt16
  | reset => some 0
  | withSequence sequence => some sequence
  | full _ | piece _ _ | fragments _ _ | frame _ _ => none

/-- The flags of the frames that a request asks for. -/
def Request.flags : Request → List FrameFlag
  | full _ => [.full]
  | piece isLast _ => [if isLast then .last else .fragment]
  | fragments size data =>
    List.replicate ((data.length + size - 1) / size - 1) .fragment ++ [.last]
  | frame flag _ => [flag]
  | reset | withSequence _ => []

/-- What is wrong with a request. -/
def Request.fault? : Request → Option FrameError
  | full data | piece _ data | frame _ data =>
    if data.length ≤ Frame.maxPayload then none else some (.payloadTooLarge data.length)
  | fragments size _ => if Frame.IsPieceSize size then none else some (.invalidFragmentSize size)
  | reset | withSequence _ => none

namespace Answer

def ofExcept {α : Type} (give : α → Answer) : Except FrameError α → Answer
  | .ok value => give value
  | .error error => failed error

/-- The bytes of every frame given. -/
def bytes : Answer → List Bytes
  | frame made => [made.encode]
  | wires all => all
  | failed _ | done => []

def isTooLarge : Answer → Bool
  | failed (.payloadTooLarge _) => true
  | frame _ | wires _ | failed _ | done => false

end Answer

def perform (encoder : Encoder) : Request → Answer × Encoder
  | .full data => (encoder.encodeFull data).map (.ofExcept fun wire => .wires [wire]) id
  | .piece isLast data =>
    (encoder.encodePiece isLast data).map (.ofExcept fun wire => .wires [wire]) id
  | .fragments size data => (encoder.encodeFragments size data).map (.ofExcept .wires) id
  | .frame flag data => (encoder.nextFrame flag data).map (.ofExcept .frame) id
  | .reset => (.done, encoder.reset)
  | .withSequence sequence => (.done, encoder.withSequence sequence)

def answers (encoder : Encoder) : List Request → List Answer
  | [] => []
  | request :: rest => (encoder.perform request).1 :: (encoder.perform request).2.answers rest

def after (encoder : Encoder) (requests : List Request) : Encoder :=
  requests.foldl (fun encoder request => (encoder.perform request).2) encoder

/-- The bytes of every frame given in a run. -/
def bytes (encoder : Encoder) (requests : List Request) : List Bytes :=
  (encoder.answers requests).flatMap Answer.bytes

/-! ## What frames say -/

/-- The frames say what the encoder is, and are numbered and stamped from where it stands. -/
structure Carries (encoder : Encoder) (frames : List VerifiedFrame) : Prop where
  numbers : frames.map (·.header.sequence) = numbersFrom encoder.sequence frames.length
  stamps : frames.map (·.header.timestamp) =
    (List.range frames.length).map fun i => encoder.clock (encoder.readings + i)
  fields : ∀ frame ∈ frames, frame.valid = true ∧ frame.header.version = 1 ∧
    frame.header.audioFormat? = some encoder.audio.format ∧
    frame.header.sampleRate = encoder.audio.sampleRate ∧
    frame.header.channelCount = encoder.audio.channels % 4

theorem carries_nil (encoder : Encoder) : encoder.Carries [] := ⟨rfl, rfl, by simp⟩

theorem carries_cons {encoder : Encoder} {rest : List VerifiedFrame} (flag : FrameFlag)
    (data : Bytes) (h : (encoder.advance 1).Carries rest) :
    encoder.Carries ((encoder.frameOf flag data).received :: rest) where
  numbers := congrArg (encoder.sequence :: ·) h.numbers
  stamps := by
    rw [List.map_cons, h.stamps, List.length_cons, List.range_succ_eq_map, List.map_cons,
      List.map_map]
    refine congrArg _ (List.map_congr_left fun i _ => ?_)
    simp only [advance, Function.comp_apply, Nat.succ_eq_add_one, Nat.add_assoc, Nat.add_comm 1]
  fields := by
    refine List.forall_mem_cons.2 ⟨⟨rfl, rfl, ?_, rfl, rfl⟩, h.fields⟩
    exact AudioFormat.ofCode?_code encoder.audio.format

theorem carries_framesOf (encoder : Encoder) (pieces : List Bytes) :
    encoder.Carries ((encoder.framesOf pieces).map Frame.received) := by
  induction pieces generalizing encoder with
  | nil => exact carries_nil encoder
  | cons piece rest ih => exact carries_cons _ piece (ih (encoder.advance 1))

/-! ## One request -/

/-- Frames that answer a request. -/
structure Made (encoder : Encoder) (request : Request) (answer : Answer)
    (frames : List VerifiedFrame) : Prop where
  checked : answer.bytes.map Frame.verify = frames.map .ok
  carries : encoder.Carries frames
  flags : frames.map (·.header.flag?) = request.flags.map some
  given : ∀ error, answer ≠ .failed error
  whole : ∀ frame, answer = .frame frame → frames = [frame.received]

/-- An encoder that answers a request: what it gives, and the encoder afterwards. -/
inductive Answered (encoder : Encoder) (request : Request) : Answer → Encoder → Prop
  | set {value : UInt16} (setting : request.setting? = some value) :
    Answered encoder request .done (encoder.withSequence value)
  | made {answer : Answer} {frames : List VerifiedFrame} (setting : request.setting? = none)
    (fault : request.fault? = none) (made : Made encoder request answer frames) :
    Answered encoder request answer (encoder.advance frames.length)
  | tooLarge {length : Nat} (fault : request.fault? = some (.payloadTooLarge length)) :
    Answered encoder request (.failed (.payloadTooLarge length))
      { encoder with readings := encoder.readings + 1 }
  | badSize {size : Nat} (fault : request.fault? = some (.invalidFragmentSize size)) :
    Answered encoder request (.failed (.invalidFragmentSize size)) encoder

theorem ofExcept_map {α β : Type} (give : β → Answer) (f : α → β) (result : Except FrameError α) :
    Answer.ofExcept give (result.map f) = Answer.ofExcept (give ∘ f) result := by
  cases result <;> rfl

theorem answered_one (encoder : Encoder) {request : Request} {flag : FrameFlag} {data : Bytes}
    {give : Frame → Answer} (setting : request.setting? = none)
    (fault : request.fault? =
      if data.length ≤ Frame.maxPayload then none else some (.payloadTooLarge data.length))
    (flags : request.flags = [flag]) (bytes : ∀ frame, (give frame).bytes = [frame.encode])
    (given : ∀ frame error, give frame ≠ .failed error)
    (whole : ∀ frame made, give frame = .frame made → frame = made) :
    Answered encoder request (.ofExcept give (encoder.nextFrame flag data).1)
      (encoder.nextFrame flag data).2 := by
  by_cases short : data.length ≤ Frame.maxPayload
  · rw [if_pos short] at fault
    rw [nextFrame_of_length_le encoder flag short]
    have checked := verify_frameOf encoder flag [] short
    rw [List.append_nil] at checked
    have made : Made encoder request (give (encoder.frameOf flag data))
        [(encoder.frameOf flag data).received] := by
      refine ⟨?_, carries_cons flag data (carries_nil _), ?_, given _, ?_⟩
      · simp [bytes, checked]
      · simp [flags, flag?_frameOf]
      · intro frame same
        rw [whole _ frame same]
    exact .made setting fault made
  · rw [if_neg short] at fault
    rw [nextFrame_of_lt_length encoder flag (Nat.not_le.1 short)]
    exact .tooLarge fault

theorem answered_fragments (encoder : Encoder) (size : Nat) (data : Bytes) :
    Answered encoder (.fragments size data)
      (.ofExcept .wires (encoder.encodeFragments size data).1)
      (encoder.encodeFragments size data).2 := by
  unfold encodeFragments
  by_cases fits : Frame.IsPieceSize size
  · have utterance := isUtterance_framesOf encoder (pieces_ne_nil size data)
    have count := length_pieces fits.1 data
    have made : Made encoder (.fragments size data)
        (.wires ((encoder.framesOf (pieces size data)).map Frame.encode))
        ((encoder.framesOf (pieces size data)).map Frame.received) := by
      refine ⟨?_, carries_framesOf encoder _, ?_, by simp, by simp⟩
      · rw [Answer.bytes, List.map_map, List.map_map]
        exact List.map_congr_left fun frame member => verify_encode_of_mem_framesOf fits member
      · have less : (pieces size data).length - 1 = (data.length + size - 1) / size - 1 := by omega
        rw [utterance.flags, List.length_map, length_framesOf, less]
        simp [Request.flags]
    have fault : (Request.fragments size data).fault? = none := if_pos fits
    have answer := Answered.made rfl fault made
    rw [List.length_map, length_framesOf] at answer
    rw [fragments_of_isPieceSize encoder data fits]
    exact answer
  · rw [fragments_of_not_isPieceSize encoder data fits]
    exact .badSize (if_neg fits)

theorem answered (encoder : Encoder) (request : Request) :
    Answered encoder request (encoder.perform request).1 (encoder.perform request).2 := by
  cases request with
  | full data =>
    simp only [perform, encodeFull, Prod.map, ofExcept_map]
    exact answered_one encoder rfl rfl rfl (fun _ => rfl) (by simp) (by simp)
  | piece isLast data =>
    simp only [perform, encodePiece, Prod.map, ofExcept_map]
    exact answered_one encoder rfl rfl rfl (fun _ => rfl) (by simp) (by simp)
  | fragments size data => exact answered_fragments encoder size data
  | frame flag data => exact answered_one encoder rfl rfl rfl (fun _ => rfl) (by simp) (by simp)
  | reset => exact .set rfl
  | withSequence sequence => exact .set rfl

end Encoder

end VoiceBus
