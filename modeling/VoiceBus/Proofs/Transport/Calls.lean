import VoiceBus.Proofs.Assembler.Calls
import VoiceBus.Proofs.Transport.Carriage

/-!
# The calls of a sender

What a call encodes depends on the sender alone, not on what becomes of the frames. Over all calls
the frames are numbered one after the other.
-/

namespace VoiceBus

namespace SendResult

variable {α : Type}

/-- Whether all that was encoded has been published. -/
def isPublished : SendResult α → Bool
  | .sent _ | .failed (.frame _) => true
  | .failed _ | .blocked => false

/-- Whether the call could not be encoded. -/
def isRejected : SendResult α → Bool
  | .failed (.frame _) => true
  | .sent _ | .failed _ | .blocked => false

/-- The result without the value. -/
def forget : SendResult α → SendResult Unit
  | .sent _ => .sent ()
  | .failed error => .failed error
  | .blocked => .blocked

theorem isPublished_forget (result : SendResult α) :
    result.forget.isPublished = result.isPublished := by
  cases result with
  | sent value => rfl
  | failed error => cases error <;> rfl
  | blocked => rfl

theorem eq_sent_of_isPublished {result : SendResult Unit} (published : result.isPublished = true)
    (encoded : result.isRejected = false) : result = .sent () := by
  unfold isPublished at published
  unfold isRejected at encoded
  split at published <;> simp_all

end SendResult

namespace Sender

inductive Call
  | full (data : Bytes)
  | stream (data : Bytes)
  deriving DecidableEq, Repr

/-- The frames that a call makes, none when it cannot make them all, and the sender afterwards. -/
def encode (sender : Sender) : Call → List Frame × Sender
  | .full data =>
    match sender.encoder.nextFrame .full data with
    | (.ok frame, encoder) => ([frame], { sender with encoder })
    | (.error _, encoder) => ([], { sender with encoder })
  | .stream data =>
    match sender.encoder.fragments sender.maxFragment data with
    | (.ok frames, encoder) => (frames, { sender with encoder })
    | (.error _, encoder) => ([], { sender with encoder })

def encodeAll (sender : Sender) : List Call → List (List Frame)
  | [] => []
  | call :: rest => (sender.encode call).1 :: (sender.encode call).2.encodeAll rest

variable {sender : Sender} {data : Bytes}

theorem encode_full_of_length_le (h : data.length ≤ Frame.maxPayload) :
    sender.encode (.full data) = ([sender.encoder.frameOf .full data],
      { sender with encoder := sender.encoder.advance 1 }) := by
  simp only [encode, Encoder.nextFrame_of_length_le _ _ h]

theorem encode_full_of_lt_length (h : Frame.maxPayload < data.length) :
    sender.encode (.full data) = ([], { sender with
      encoder := { sender.encoder with readings := sender.encoder.readings + 1 } }) := by
  simp only [encode, Encoder.nextFrame_of_lt_length _ _ h]

theorem encode_stream_of_isPieceSize (h : Frame.IsPieceSize sender.maxFragment) :
    sender.encode (.stream data) =
      (sender.encoder.framesOf (Encoder.pieces sender.maxFragment data), { sender with
        encoder := sender.encoder.advance (Encoder.pieces sender.maxFragment data).length }) := by
  simp only [encode, Encoder.fragments_of_isPieceSize _ _ h]

theorem encode_stream_of_not_isPieceSize (h : ¬ Frame.IsPieceSize sender.maxFragment) :
    sender.encode (.stream data) = ([], sender) := by
  simp only [encode, Encoder.fragments_of_not_isPieceSize _ _ h]

/-! ## What a call makes of a sender -/

structure Encoded (sender : Sender) (frames : List Frame) (after : Sender) : Prop where
  topic : after.topic = sender.topic
  isCall : IsCall (frames.map Frame.received)
  numbers : frames.map (·.header.sequence) = numbersFrom sender.encoder.sequence frames.length
  sequence : after.encoder.sequence = sender.encoder.sequence + UInt16.ofNat frames.length
  checked : ∀ frame ∈ frames, Frame.verify frame.encode = .ok frame.received

theorem encoded_nothing {after : Sender} (topic : after.topic = sender.topic)
    (sequence : after.encoder.sequence = sender.encoder.sequence) :
    sender.Encoded [] after where
  topic := topic
  isCall := .failed
  numbers := rfl
  sequence := by rw [sequence]; exact (UInt16.add_zero _).symm
  checked := by simp

theorem encoded_full (fits : data.length ≤ Frame.maxPayload) :
    sender.Encoded [sender.encoder.frameOf .full data]
      { sender with encoder := sender.encoder.advance 1 } where
  topic := rfl
  isCall := .full rfl (Encoder.flag?_frameOf _ _ _)
  numbers := rfl
  sequence := rfl
  checked := by
    have checked := Encoder.verify_frameOf sender.encoder .full [] fits
    rw [List.append_nil] at checked
    simpa using checked

theorem encoded_stream (fits : Frame.IsPieceSize sender.maxFragment) :
    sender.Encoded (sender.encoder.framesOf (Encoder.pieces sender.maxFragment data))
      { sender with
        encoder := sender.encoder.advance (Encoder.pieces sender.maxFragment data).length } where
  topic := rfl
  isCall := .stream (Encoder.isUtterance_framesOf _ (Encoder.pieces_ne_nil _ _))
  numbers := by
    have numbers := (Encoder.isUtterance_framesOf sender.encoder
      (Encoder.pieces_ne_nil sender.maxFragment data)).numbers
    rw [List.map_map, List.length_map] at numbers
    exact numbers
  sequence := by
    rw [Encoder.length_framesOf]
    rfl
  checked := fun _ member => Encoder.verify_encode_of_mem_framesOf fits member

theorem encoded (sender : Sender) (call : Call) :
    sender.Encoded (sender.encode call).1 (sender.encode call).2 := by
  cases call with
  | full data =>
    by_cases fits : data.length ≤ Frame.maxPayload
    · rw [encode_full_of_length_le fits]
      exact encoded_full fits
    · rw [encode_full_of_lt_length (Nat.lt_of_not_le fits)]
      exact encoded_nothing rfl rfl
  | stream data =>
    by_cases fits : Frame.IsPieceSize sender.maxFragment
    · rw [encode_stream_of_isPieceSize fits]
      exact encoded_stream fits
    · rw [encode_stream_of_not_isPieceSize fits]
      exact encoded_nothing rfl rfl

/-! ## What all calls make -/

theorem isCall_of_mem_encodeAll {calls : List Call} {frames : List Frame}
    (h : frames ∈ sender.encodeAll calls) : IsCall (frames.map Frame.received) := by
  induction calls generalizing sender with
  | nil => cases h
  | cons call rest ih =>
    rw [encodeAll, List.mem_cons] at h
    rcases h with rfl | later
    · exact (sender.encoded call).isCall
    · exact ih later

theorem numbers_encodeAll (sender : Sender) (calls : List Call) :
    (sender.encodeAll calls).flatten.map (·.header.sequence) =
      numbersFrom sender.encoder.sequence (sender.encodeAll calls).flatten.length := by
  induction calls generalizing sender with
  | nil => rfl
  | cons call rest ih =>
    have here := sender.encoded call
    rw [encodeAll, List.flatten_cons, List.map_append, here.numbers, ih, List.length_append,
      numbersFrom_add, here.sequence]

/-! ## A call taken apart -/

section

variable {σ : Type} {publish : Publisher σ} {before after : σ} {sender' : Sender}
  {notices : List Notice}

/-- A call encodes nothing, or all its frames, and then publishes these: what it answers, and the
sender and the transport afterwards. -/
inductive Called (publish : Publisher σ) (sender : Sender) (call : Call) (before : σ) :
    SendResult Unit → Sender → σ → Prop
  | rejected (error : FrameError) (nothing : (sender.encode call).1 = []) :
    Called publish sender call before (.failed (.frame error)) (sender.encode call).2 before
  | published {result : SendResult Unit} {notices : List Notice} {after : σ}
    (frames : (sender.encode call).1 ≠ [])
    (done : publishAll publish sender.topic (sender.encode call).1 before =
      (result, notices, after)) :
    Called publish sender call before result (sender.encode call).2 after

theorem Called.of_encode {call : Call} {frames : List Frame} {result : SendResult Unit}
    (encoding : sender.encode call = (frames, sender')) (some : frames ≠ [])
    (done : publishAll publish sender.topic frames before = (result, notices, after)) :
    Called publish sender call before result sender' after := by
  obtain ⟨rfl, rfl⟩ := Prod.mk.inj encoding
  exact .published some done

theorem Called.of_encode_nil {call : Call} (encoding : sender.encode call = ([], sender'))
    (error : FrameError) :
    Called publish sender call before (.failed (.frame error)) sender' before := by
  have nothing := congrArg Prod.fst encoding
  have state := congrArg Prod.snd encoding
  dsimp only at nothing state
  rw [← state]
  exact .rejected error nothing

theorem called_of_sendFull {result : SendResult UInt16}
    (h : sender.sendFull publish data before = (result, notices, sender', after)) :
    Called publish sender (.full data) before result.forget sender' after := by
  unfold sendFull at h
  by_cases fits : data.length ≤ Frame.maxPayload
  · rw [Encoder.nextFrame_of_length_le _ _ fits] at h
    dsimp only at h
    rcases published : publish ⟨sender.topic, (sender.encoder.frameOf .full data).encode⟩ before
      with ⟨⟨outcome, notes⟩, middle⟩
    rw [published] at h
    -- one frame is published as a list of one is
    cases outcome with
    | accepted =>
      cases h
      exact .of_encode (encode_full_of_length_le fits) (by simp)
        (by unfold publishAll; rw [published]; rfl)
    | failed error =>
      cases h
      exact .of_encode (encode_full_of_length_le fits) (by simp)
        (by unfold publishAll; rw [published]; rfl)
    | blocked =>
      cases h
      exact .of_encode (encode_full_of_length_le fits) (by simp)
        (by unfold publishAll; rw [published]; rfl)
  · rw [Nat.not_le] at fits
    rw [Encoder.nextFrame_of_lt_length _ _ fits] at h
    cases h
    exact .of_encode_nil (encode_full_of_lt_length fits) _

theorem called_of_sendStream {result : SendResult Nat}
    (h : sender.sendStream publish data before = (result, notices, sender', after)) :
    Called publish sender (.stream data) before result.forget sender' after := by
  unfold sendStream at h
  by_cases fits : Frame.IsPieceSize sender.maxFragment
  · rw [Encoder.fragments_of_isPieceSize _ _ fits] at h
    dsimp only at h
    rcases done : publishAll publish sender.topic (sender.encoder.framesOf
      (Encoder.pieces sender.maxFragment data)) before with ⟨result', notes, last⟩
    rw [done] at h
    have some : sender.encoder.framesOf (Encoder.pieces sender.maxFragment data) ≠ [] := by
      rw [← List.length_pos_iff, Encoder.length_framesOf, List.length_pos_iff]
      exact Encoder.pieces_ne_nil _ _
    cases result' with
    | sent value =>
      cases h
      exact .of_encode (encode_stream_of_isPieceSize fits) some done
    | failed error =>
      cases h
      exact .of_encode (encode_stream_of_isPieceSize fits) some done
    | blocked =>
      cases h
      exact .of_encode (encode_stream_of_isPieceSize fits) some done
  · rw [Encoder.fragments_of_not_isPieceSize _ _ fits] at h
    cases h
    exact .of_encode_nil (encode_stream_of_not_isPieceSize fits) _

theorem isRejected_of_publishAll {topic : Topic} {frames : List Frame} {result : SendResult Unit}
    (h : publishAll publish topic frames before = (result, notices, after)) :
    result.isRejected = false := by
  cases publishes_publishAll h <;> rfl

end

/-! ## Through a faulty end of the bus -/

variable {profile : FaultProfile} {outlet after : Outlet} {sender' : Sender}

theorem took_of_called {call : Call} {result : SendResult Unit}
    (sink : outlet.sink = .faulty .channel profile)
    (spared : outlet.chance.Spares profile (sender.encode call).1)
    (called : Called Outlet.publish sender call outlet result sender' after)
    (published : result.isPublished = true) :
    sender' = (sender.encode call).2 ∧
      outlet.Took sender.topic profile (sender.encode call).1 after := by
  cases called with
  | rejected error nothing =>
    rw [nothing]
    exact ⟨rfl, .nil sink⟩
  | published frames done =>
    obtain rfl := SendResult.eq_sent_of_isPublished published (isRejected_of_publishAll done)
    obtain accepted | - | - := publishes_publishAll done
    exact ⟨rfl, Outlet.took_of_accepts sink (sender.encoded call).checked spared accepted⟩

end Sender

end VoiceBus
