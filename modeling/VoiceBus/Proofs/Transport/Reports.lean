import VoiceBus.Proofs.Transport.Calls

/-! # Calls whose publishing may end early

Each publish puts its message at the end of a queue or leaves nothing. A call then puts the first of
its frames there, however far it comes, and uses up the numbers of all.
-/

namespace VoiceBus

/-- What is accepted goes to the end of the queue. What is not leaves nothing behind. -/
def Publisher.IsFifo {σ : Type} (publish : Publisher σ) (queue : σ → List Message) : Prop :=
  ∀ message transport attempt after, publish message transport = (attempt, after) →
    queue after = queue transport ++ if attempt.outcome = .accepted then [message] else []

/-- A publishing end of the bus alone. -/
def Bus.publisher : Publisher Bus := fun message bus =>
  (⟨(bus.publish message).1, []⟩, (bus.publish message).2)

theorem Bus.isFifo_publisher : Publisher.IsFifo Bus.publisher (·.queue.toList) := by
  rintro message bus attempt after published
  cases published
  dsimp only
  split
  · rename_i accepted
    have queued := Bus.publish_accepted (Prod.ext accepted rfl)
    have grown := congrArg (fun bus => bus.queue.toList) queued
    rwa [Queue.toList_push] at grown
  · rename_i refused
    rw [Bus.publish_not_accepted refused, List.append_nil]

/-- The message that carries a frame. -/
def Frame.toMessage (topic : Topic) (frame : Frame) : Message := ⟨topic, frame.encode⟩

namespace Sender

namespace Call

def data : Call → Bytes
  | full data | stream data => data

def isStream : Call → Bool
  | full _ => false
  | stream _ => true

/-- The number of frames that a call is cut into. -/
def frameCount (size : Nat) : Call → Nat
  | full _ => 1
  | stream data => max 1 ((data.length + size - 1) / size)

end Call

variable {σ : Type} {publish : Publisher σ} {queue : σ → List Message}

def perform (publish : Publisher σ) (sender : Sender) (call : Call) (transport : σ) :
    SendResult Unit × Sender × σ :=
  match call with
  | .full data =>
    let (result, _, after, transport) := sender.sendFull publish data transport
    (result.forget, after, transport)
  | .stream data =>
    let (result, _, after, transport) := sender.sendStream publish data transport
    (result.forget, after, transport)

/-- What a call came to. -/
structure Report where
  call : Call
  result : SendResult Unit
  /-- The number of the next frame before the call, and after it. -/
  sequence : UInt16
  next : UInt16
  /-- What the call added to the queue. -/
  published : List Message
  deriving DecidableEq, Repr

/-- Performs calls one after the other. -/
def performAll (publish : Publisher σ) (queue : σ → List Message) (sender : Sender) :
    List Call → σ → List Report × σ
  | [], transport => ([], transport)
  | call :: rest, transport =>
    let (result, after, transport') := sender.perform publish call transport
    let (others, final) := after.performAll publish queue rest transport'
    (⟨call, result, sender.sequence, after.sequence,
      (queue transport').drop (queue transport).length⟩ :: others, final)

/-- Publishing frames came so far that the first `count` of them are in the queue. -/
structure Published (queue : σ → List Message) (topic : Topic) (frames : List Frame)
    (before after : σ) (result : SendResult Unit) (count : Nat) : Prop where
  within : count ≤ frames.length
  grown : queue after = queue before ++ (frames.take count).map (Frame.toMessage topic)
  rejected : result.isRejected = true ↔ frames = []
  sent : result = .sent () ↔ frames ≠ [] ∧ count = frames.length

variable {sender sender' : Sender} {before after : σ} {notices : List Notice}

theorem Accepts.grown {topic : Topic} {frames : List Frame} (fifo : Publisher.IsFifo publish queue)
    (accepted : Accepts publish topic frames before after) :
    queue after = queue before ++ frames.map (Frame.toMessage topic) := by
  induction accepted with
  | nil transport => exact (List.append_nil _).symm
  | cons published others ih =>
    rw [ih, fifo _ _ _ _ published, if_pos rfl, List.append_assoc]
    rfl

theorem Publishes.grown {α : Type} {topic : Topic} {frames : List Frame} {value : α}
    {result : SendResult α} (fifo : Publisher.IsFifo publish queue)
    (h : Publishes publish topic frames value before result after) :
    ∃ done, done <+: frames ∧ queue after = queue before ++ done.map (Frame.toMessage topic) ∧
      (result = .sent value ↔ done = frames) := by
  cases h with
  | all accepted => exact ⟨frames, List.prefix_rfl, accepted.grown fifo, by simp⟩
  | @failed done rest frame middle _ error notices parts accepted refused =>
    have left := fifo _ _ _ _ refused
    rw [if_neg (by simp), List.append_nil, accepted.grown fifo] at left
    exact ⟨done, ⟨_, parts.symm⟩, left, by simp [parts]⟩
  | @blocked done rest frame middle _ notices parts accepted refused =>
    have left := fifo _ _ _ _ refused
    rw [if_neg (by simp), List.append_nil, accepted.grown fifo] at left
    exact ⟨done, ⟨_, parts.symm⟩, left, by simp [parts]⟩

theorem Called.published_frames {call : Call} {result : SendResult Unit}
    (fifo : Publisher.IsFifo publish queue)
    (called : Called publish sender call before result sender' after) :
    sender' = (sender.encode call).2 ∧ ∃ count,
      Published queue sender.topic (sender.encode call).1 before after result count := by
  cases called with
  | rejected error nothing =>
    rw [nothing]
    exact ⟨rfl, 0, Nat.le_refl 0, (List.append_nil _).symm, by simp [SendResult.isRejected],
      by simp⟩
  | published frames done =>
    obtain ⟨first, front, grown, sent⟩ := (publishes_publishAll done).grown fifo
    have encoded := isRejected_of_publishAll done
    have whole : first.length = (sender.encode call).1.length ↔ first = (sender.encode call).1 :=
      ⟨front.eq_of_length, congrArg List.length⟩
    rw [List.prefix_iff_eq_take.1 front] at grown
    exact ⟨rfl, first.length, front.length_le, grown, by simp [encoded, frames],
      by rw [sent, whole, and_iff_right frames]⟩

theorem called_of_perform {call : Call} {result : SendResult Unit}
    (h : sender.perform publish call before = (result, sender', after)) :
    Called publish sender call before result sender' after := by
  cases call with
  | full data =>
    unfold perform at h
    cases h
    exact called_of_sendFull rfl
  | stream data =>
    unfold perform at h
    cases h
    exact called_of_sendStream rfl

/-! ## All calls -/

theorem topic_encode (sender : Sender) (call : Call) :
    (sender.encode call).2.topic = sender.topic :=
  (sender.encoded call).topic

theorem maxFragment_encode (sender : Sender) (call : Call) :
    (sender.encode call).2.maxFragment = sender.maxFragment := by
  cases call with
  | full data => unfold encode; dsimp only; split <;> rfl
  | stream data => unfold encode; dsimp only; split <;> rfl

theorem length_encode {call : Call} (fits : Frame.IsPieceSize sender.maxFragment)
    (made : (sender.encode call).1 ≠ []) :
    (sender.encode call).1.length = call.frameCount sender.maxFragment := by
  cases call with
  | full data =>
    by_cases short : data.length ≤ Frame.maxPayload
    · rw [encode_full_of_length_le short]
      rfl
    · rw [encode_full_of_lt_length (Nat.lt_of_not_le short)] at made
      exact absurd rfl made
  | stream data =>
    rw [encode_stream_of_isPieceSize fits, Encoder.length_framesOf, Encoder.length_pieces fits.1]
    rfl

theorem frameCount_pos (size : Nat) (call : Call) : 0 < call.frameCount size := by
  cases call with
  | full data => exact Nat.one_pos
  | stream data => exact Nat.lt_of_lt_of_le Nat.one_pos (Nat.le_max_left ..)

theorem performAll_cons {call : Call} {rest : List Call} {reports : List Report}
    (fifo : Publisher.IsFifo publish queue)
    (performed : sender.performAll publish queue (call :: rest) before = (reports, after)) :
    ∃ result middle others count,
      Published queue sender.topic (sender.encode call).1 before middle result count ∧
      (sender.encode call).2.performAll publish queue rest middle = (others, after) ∧
      reports = ⟨call, result, sender.sequence, (sender.encode call).2.sequence,
        ((sender.encode call).1.take count).map (Frame.toMessage sender.topic)⟩ :: others := by
  unfold performAll at performed
  rcases called : sender.perform publish call before with ⟨result, after', middle⟩
  rw [called] at performed
  dsimp only at performed
  obtain ⟨rfl, count, published⟩ := (called_of_perform called).published_frames fifo
  rcases remaining : (sender.encode call).2.performAll publish queue rest middle with ⟨others, final⟩
  rw [remaining] at performed
  cases performed
  refine ⟨result, middle, others, count, published, remaining, ?_⟩
  rw [published.grown, List.drop_left]

theorem queue_performAll {calls : List Call} {reports : List Report}
    (fifo : Publisher.IsFifo publish queue)
    (performed : sender.performAll publish queue calls before = (reports, after)) :
    queue after = queue before ++ reports.flatMap (·.published) := by
  induction calls generalizing sender before reports with
  | nil =>
    cases performed
    exact (List.append_nil _).symm
  | cons call rest ih =>
    obtain ⟨result, middle, others, count, published, remaining, rfl⟩ :=
      performAll_cons fifo performed
    rw [ih remaining, published.grown, List.flatMap_cons, List.append_assoc]

theorem call_performAll {calls : List Call} {reports : List Report}
    (fifo : Publisher.IsFifo publish queue)
    (performed : sender.performAll publish queue calls before = (reports, after)) :
    reports.map (·.call) = calls := by
  induction calls generalizing sender before reports with
  | nil =>
    cases performed
    rfl
  | cons call rest ih =>
    obtain ⟨result, middle, others, count, published, remaining, rfl⟩ :=
      performAll_cons fifo performed
    exact congrArg (call :: ·) (ih remaining)

/-- All frames of the call were published. -/
def Report.IsWhole (size : Nat) (report : Report) : Prop :=
  report.published.length = report.call.frameCount size

instance (size : Nat) (report : Report) : Decidable (report.IsWhole size) :=
  inferInstanceAs (Decidable (_ = _))

/-- A call that cannot be encoded does nothing. Any other uses up a number for each of its frames,
and what it published are frames. -/
structure Report.IsSound (topic : Topic) (size : Nat) (report : Report) : Prop where
  rejected : report.result.isRejected = true →
    report.published = [] ∧ report.next = report.sequence
  advanced : report.result.isRejected = false →
    report.next = report.sequence + UInt16.ofNat (report.call.frameCount size)
  sent : report.result = .sent () ↔ report.IsWhole size
  carried : ∀ message ∈ report.published, message.topic = topic ∧
    ∃ frame, Frame.verify message.payload = .ok frame ∧ frame.valid = true

theorem Published.isSound {call : Call} {result : SendResult Unit} {count : Nat}
    (fits : Frame.IsPieceSize sender.maxFragment)
    (h : Published queue sender.topic (sender.encode call).1 before after result count) :
    Report.IsSound sender.topic sender.maxFragment ⟨call, result, sender.sequence,
      (sender.encode call).2.sequence,
      ((sender.encode call).1.take count).map (Frame.toMessage sender.topic)⟩ where
  rejected := by
    intro rejected
    have encoding := sender.encoded call
    rw [h.rejected.1 rejected] at encoding ⊢
    refine ⟨by simp, ?_⟩
    exact encoding.sequence.trans (UInt16.add_zero _)
  advanced := by
    intro accepted
    have made : (sender.encode call).1 ≠ [] := by
      rw [Ne, ← h.rejected, accepted]
      exact Bool.false_ne_true
    rw [← length_encode fits made]
    exact (sender.encoded call).sequence
  sent := by
    have length : (((sender.encode call).1.take count).map
        (Frame.toMessage sender.topic)).length = count := by
      rw [List.length_map, List.length_take, Nat.min_eq_left h.within]
    rw [Report.IsWhole, length, h.sent]
    constructor
    · rintro ⟨made, all⟩
      rw [all, length_encode fits made]
    · intro all
      have some := frameCount_pos sender.maxFragment call
      have made : (sender.encode call).1 ≠ [] := by
        rw [← List.length_pos_iff]
        exact Nat.lt_of_lt_of_le (all ▸ some) h.within
      exact ⟨made, by rw [all, length_encode fits made]⟩
  carried := by
    intro message member
    obtain ⟨frame, among, rfl⟩ := List.mem_map.1 member
    exact ⟨rfl, frame.received,
      (sender.encoded call).checked frame (List.mem_of_mem_take among), rfl⟩

theorem isSound_of_mem_performAll {calls : List Call} {reports : List Report}
    (fifo : Publisher.IsFifo publish queue) (fits : Frame.IsPieceSize sender.maxFragment)
    (performed : sender.performAll publish queue calls before = (reports, after)) :
    ∀ report ∈ reports, report.IsSound sender.topic sender.maxFragment := by
  induction calls generalizing sender before reports with
  | nil =>
    cases performed
    simp
  | cons call rest ih =>
    obtain ⟨result, middle, others, count, published, remaining, rfl⟩ :=
      performAll_cons fifo performed
    have later := ih ((sender.maxFragment_encode call).symm ▸ fits) remaining
    rw [topic_encode, maxFragment_encode] at later
    exact List.forall_mem_cons.2 ⟨published.isSound fits, later⟩

end Sender

end VoiceBus
