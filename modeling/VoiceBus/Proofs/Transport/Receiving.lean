import VoiceBus.Transport.Receiver

/-!
# What a receiver answers and counts

A call takes the oldest message, waits, or finds that nothing will come any more. What it answers to
a message depends on this message alone, so a message that is no frame costs nothing but itself.
Every message that leaves the bus is counted as a frame or answered with an error.
-/

namespace VoiceBus

/-- What a receiver answers when it takes the message. -/
def Message.judged (message : Message) : Reception :=
  match Frame.verify message.payload with
  | .error error => .failed (.frame error)
  | .ok frame => .frame ⟨message.topic, frame⟩

namespace Reception

def isWaiting : Reception → Bool
  | waiting => true
  | frame _ | failed _ | closed => false

def isFrame : Reception → Bool
  | frame _ => true
  | failed _ | waiting | closed => false

def isCorrupted : Reception → Bool
  | frame received => !received.frame.valid
  | failed _ | waiting | closed => false

def isError : Reception → Bool
  | failed _ => true
  | frame _ | waiting | closed => false

end Reception

/-! ## One message -/

namespace Message

variable (message : Message)

theorem judged_of_error {message : Message} {error : FrameError}
    (read : Frame.verify message.payload = .error error) :
    message.judged = .failed (.frame error) := by
  rw [judged, read]

theorem judged_of_frame {message : Message} {frame : VerifiedFrame}
    (read : Frame.verify message.payload = .ok frame) :
    message.judged = .frame ⟨message.topic, frame⟩ := by
  rw [judged, read]

theorem isWaiting_judged : message.judged.isWaiting = false := by
  unfold judged
  cases Frame.verify message.payload <;> rfl

theorem isFrame_add_isError :
    ((if message.judged.isFrame then 1 else 0) + if message.judged.isError then 1 else 0) = 1 := by
  unfold judged
  cases Frame.verify message.payload <;> rfl

theorem isPerFrame_of_judged {message : Message} {error : Error}
    (h : message.judged = .failed error) : error.isPerFrame = true := by
  unfold judged at h
  split at h
  · cases h
    rfl
  · cases h

end Message

namespace Reception

theorem isFrame_of_isCorrupted {reception : Reception} (h : reception.isCorrupted = true) :
    reception.isFrame = true := by
  cases reception with
  | frame received => rfl
  | failed error => cases h
  | waiting => cases h
  | closed => cases h

end Reception

namespace Receiver

variable {bus : Bus}

/-! ## One call -/

theorem next_of_empty (receiver : Receiver) (empty : bus.queue.pop? = none) :
    receiver.next bus =
      (if bus.receiving && bus.publishers != 0 then .waiting else .closed, [], receiver, bus) := by
  unfold next Bus.receive
  rw [empty]
  by_cases alive : (bus.receiving && bus.publishers != 0) = true
  · rw [if_pos alive, if_pos alive]
  · rw [if_neg alive, if_neg alive]

theorem next_of_message (receiver : Receiver) {message : Message} {rest : Queue Message}
    (oldest : bus.queue.pop? = some (message, rest)) :
    receiver.next bus = (message.judged, takeNotices message, (receiver.take message).2,
      { bus with queue := rest }) := by
  unfold next Bus.receive
  rw [oldest]
  dsimp only
  unfold take Message.judged
  cases Frame.verify message.payload with
  | error error => rfl
  | ok frame => rfl

theorem take_received (receiver : Receiver) (message : Message) :
    (receiver.take message).2.received =
      receiver.received + if message.judged.isFrame then 1 else 0 := by
  unfold take Message.judged
  cases Frame.verify message.payload with
  | error error => rfl
  | ok frame => rfl

theorem take_corrupted (receiver : Receiver) (message : Message) :
    (receiver.take message).2.corrupted =
      receiver.corrupted + if message.judged.isCorrupted then 1 else 0 := by
  unfold take Message.judged
  cases Frame.verify message.payload with
  | error error => rfl
  | ok frame => cases valid : frame.valid <;> simp [Reception.isCorrupted, valid]

/-! ## All calls -/

/-- What happens around a bus. -/
inductive Event
  | publish (message : Message)
  | openEnd
  | closeEnd
  /-- The receiver is called. -/
  | next
  deriving DecidableEq, Repr

/-- A receiver at its bus, with all that was put on the bus and all that was answered. -/
structure Hearing where
  receiver : Receiver := {}
  bus : Bus
  published : List Message
  replies : List Reception := []

namespace Hearing

/-- Nothing has been asked yet. -/
def start (bus : Bus) : Hearing := { bus, published := bus.queue.toList }

/-- One event. An end is needed to publish, and to open another one. -/
def step (hearing : Hearing) : Event → Hearing
  | .publish message =>
    if hearing.bus.publishers = 0 then hearing
    else
      let (outcome, bus) := hearing.bus.publish message
      { hearing with
        bus
        published := hearing.published ++ if outcome = .accepted then [message] else [] }
  | .openEnd =>
    if hearing.bus.publishers = 0 then hearing else { hearing with bus := hearing.bus.attach 1 }
  | .closeEnd => { hearing with bus := hearing.bus.detach 1 }
  | .next =>
    let (reply, _, receiver, bus) := hearing.receiver.next hearing.bus
    { hearing with receiver, bus, replies := hearing.replies ++ [reply] }

def after (hearing : Hearing) (events : List Event) : Hearing := events.foldl step hearing

/-- What the calls answered that did not wait. -/
def answers (hearing : Hearing) : List Reception :=
  hearing.replies.filter fun reply => !reply.isWaiting

/-- The answer of a call to the message whose turn it is, if there is one. -/
def answer : Option Message → Reception
  | some message => message.judged
  | none => .closed

/-- Every call that did not wait had its own message, and the rest of the messages wait. -/
structure Accounted (hearing : Hearing) : Prop where
  receiving : hearing.bus.receiving = true
  answers : ∀ i < hearing.answers.length,
    hearing.answers[i]? = some (answer hearing.published[i]?)
  queue : hearing.bus.queue.toList = hearing.published.drop hearing.answers.length
  /-- While an end is open, no call has been told that nothing will come. -/
  lively : hearing.bus.publishers ≠ 0 → hearing.answers.length ≤ hearing.published.length
  received : hearing.receiver.received = hearing.replies.countP Reception.isFrame
  corrupted : hearing.receiver.corrupted = hearing.replies.countP Reception.isCorrupted
  total : hearing.receiver.received + hearing.replies.countP Reception.isError +
    hearing.bus.queue.toList.length = hearing.published.length
  errors : ∀ error, .failed error ∈ hearing.replies → error.isPerFrame = true

variable {hearing : Hearing}

theorem accounted_start (receiving : bus.receiving = true) : (start bus).Accounted where
  receiving := receiving
  answers := by simp [start, Hearing.answers]
  queue := rfl
  lively := fun _ => Nat.zero_le _
  received := rfl
  corrupted := rfl
  total := Nat.zero_add _
  errors := by simp [start]

theorem Accounted.put (h : hearing.Accounted) (alive : hearing.bus.publishers ≠ 0)
    (message : Message) :
    Accounted { hearing with
      bus := { hearing.bus with queue := hearing.bus.queue.push message }
      published := hearing.published ++ [message] } := by
  have asked := h.lively alive
  refine ⟨h.receiving, ?_, ?_, ?_, h.received, h.corrupted, ?_, h.errors⟩
  · -- no call has had more than the messages before this one
    intro i before
    rw [List.getElem?_append_left (Nat.lt_of_lt_of_le before asked)]
    exact h.answers i before
  · refine (Queue.toList_push ..).trans ?_
    rw [h.queue]
    exact (List.drop_append_of_le_length asked).symm
  · intro _
    rw [List.length_append]
    exact Nat.le_add_right_of_le asked
  · rw [Queue.toList_push, List.length_append, List.length_append, ← Nat.add_assoc, h.total]

theorem Accounted.publish (h : hearing.Accounted) (message : Message) :
    (hearing.step (.publish message)).Accounted := by
  unfold step
  dsimp only
  split
  · exact h
  rename_i alive
  rcases published : hearing.bus.publish message with ⟨outcome, bus⟩
  by_cases accepted : outcome = .accepted
  · subst accepted
    obtain rfl := Bus.publish_accepted published
    exact h.put alive message
  · have refused : (hearing.bus.publish message).1 ≠ .accepted := by
      rw [published]
      exact accepted
    have same := Bus.publish_not_accepted refused
    rw [published] at same
    subst same
    rw [if_neg accepted, List.append_nil]
    exact h

theorem Accounted.ends (h : hearing.Accounted) {publishers : Nat}
    (alive : publishers ≠ 0 → hearing.bus.publishers ≠ 0) :
    Accounted { hearing with bus := { hearing.bus with publishers } } :=
  ⟨h.receiving, h.answers, h.queue, fun some => h.lively (alive some), h.received, h.corrupted,
    h.total, h.errors⟩

theorem Accounted.wait (h : hearing.Accounted) :
    Accounted { hearing with replies := hearing.replies ++ [.waiting] } := by
  have same : Hearing.answers { hearing with replies := hearing.replies ++ [.waiting] } =
      hearing.answers := by
    simp [Hearing.answers, Reception.isWaiting]
  refine ⟨h.receiving, ?_, ?_, ?_, ?_, ?_, ?_, ?_⟩
  · rw [same]
    exact h.answers
  · rw [same]
    exact h.queue
  · rw [same]
    exact h.lively
  · simp [h.received, Reception.isFrame]
  · simp [h.corrupted, Reception.isCorrupted]
  · simpa [Reception.isError] using h.total
  · simpa using h.errors

theorem Accounted.answer (h : hearing.Accounted) {reply : Reception} {receiver : Receiver}
    {bus : Bus} (spoken : reply.isWaiting = false)
    (own : reply = Hearing.answer hearing.published[hearing.answers.length]?)
    (receiving : bus.receiving = true)
    (queue : bus.queue.toList = hearing.published.drop (hearing.answers.length + 1))
    (lively : bus.publishers ≠ 0 → hearing.answers.length + 1 ≤ hearing.published.length)
    (received : receiver.received =
      hearing.receiver.received + if reply.isFrame then 1 else 0)
    (corrupted : receiver.corrupted =
      hearing.receiver.corrupted + if reply.isCorrupted then 1 else 0)
    (total : (if reply.isFrame then 1 else 0) + (if reply.isError then 1 else 0) +
      bus.queue.toList.length = hearing.bus.queue.toList.length)
    (error : ∀ error, reply = .failed error → error.isPerFrame = true) :
    Accounted { hearing with receiver, bus, replies := hearing.replies ++ [reply] } := by
  have more :
      Hearing.answers { hearing with receiver, bus, replies := hearing.replies ++ [reply] } =
        hearing.answers ++ [reply] := by
    simp [Hearing.answers, spoken]
  refine ⟨receiving, ?_, ?_, ?_, ?_, ?_, ?_, ?_⟩
  · rw [more]
    intro i before
    rw [List.length_append, List.length_singleton] at before
    by_cases earlier : i < hearing.answers.length
    · rw [List.getElem?_append_left earlier]
      exact h.answers i earlier
    · obtain rfl : i = hearing.answers.length := by omega
      rw [List.getElem?_concat_length, own]
  · rw [more, List.length_append]
    exact queue
  · rw [more, List.length_append]
    exact lively
  · rw [received, h.received, List.countP_append, List.countP_singleton]
  · rw [corrupted, h.corrupted, List.countP_append, List.countP_singleton]
  · have before := h.total
    rw [List.countP_append, List.countP_singleton, received]
    dsimp only
    omega
  · intro failure member
    rcases List.mem_append.1 member with earlier | now
    · exact h.errors failure earlier
    · exact error failure (List.mem_singleton.1 now).symm

theorem Accounted.next (h : hearing.Accounted) : (hearing.step .next).Accounted := by
  unfold step
  dsimp only
  cases oldest : hearing.bus.queue.pop? with
  | none =>
    have empty := Queue.pop?_eq_none_iff.1 oldest
    rw [next_of_empty _ oldest, h.receiving]
    by_cases alive : hearing.bus.publishers = 0
    · -- all messages are taken, so the call has no message of its own
      have none : hearing.published.length ≤ hearing.answers.length := by
        rw [← List.drop_eq_nil_iff, ← h.queue, empty]
      simp only [alive, bne_self_eq_false, Bool.and_false, Bool.false_eq_true, if_false]
      apply h.answer rfl
      · rw [List.getElem?_eq_none none]
        rfl
      · exact h.receiving
      · rw [empty, List.drop_eq_nil_of_le (Nat.le_succ_of_le none)]
      · exact fun some => absurd alive some
      · rfl
      · rfl
      · simp [empty, Reception.isFrame, Reception.isError]
      · simp
    · simp only [bne_iff_ne.2 alive, Bool.and_true, if_true]
      exact h.wait
  | some found =>
    obtain ⟨message, rest⟩ := found
    have waiting := Queue.toList_of_pop? oldest
    have turn := h.queue
    rw [waiting] at turn
    have own : hearing.published[hearing.answers.length]? = some message := by
      rw [← List.head?_drop, ← turn]
      rfl
    have within := (List.getElem?_eq_some_iff.1 own).1
    rw [next_of_message _ oldest]
    apply h.answer
    · exact message.isWaiting_judged
    · rw [own]
      rfl
    · exact h.receiving
    · rw [← List.tail_drop, ← turn]
      rfl
    · exact fun _ => within
    · exact take_received _ _
    · exact take_corrupted _ _
    · rw [message.isFrame_add_isError, waiting, List.length_cons, Nat.add_comm]
    · exact fun _ => message.isPerFrame_of_judged

theorem Accounted.step (h : hearing.Accounted) (event : Event) :
    (hearing.step event).Accounted := by
  cases event with
  | publish message => exact h.publish message
  | openEnd =>
    unfold Hearing.step
    dsimp only
    split
    · exact h
    · rename_i alive
      exact h.ends fun _ => alive
  | closeEnd =>
    apply h.ends
    intro alive none
    rw [none] at alive
    exact alive rfl
  | next => exact h.next

theorem Accounted.after (h : hearing.Accounted) (events : List Event) :
    (hearing.after events).Accounted := by
  induction events generalizing hearing with
  | nil => exact h
  | cons event rest ih => exact ih (h.step event)

end Hearing

/-! ## Any traffic -/

theorem next_iff (receiver : Receiver) (receiving : bus.receiving = true) :
    ((receiver.next bus).1 = .waiting ↔ bus.queue.toList = [] ∧ bus.publishers ≠ 0) ∧
    ((receiver.next bus).1 = .closed ↔ bus.queue.toList = [] ∧ bus.publishers = 0) := by
  cases oldest : bus.queue.pop? with
  | none =>
    rw [next_of_empty receiver oldest, receiving, Queue.pop?_eq_none_iff.1 oldest]
    by_cases alive : bus.publishers = 0 <;> simp [alive]
  | some found =>
    obtain ⟨message, rest⟩ := found
    rw [next_of_message receiver oldest, Queue.toList_of_pop? oldest]
    unfold Message.judged
    cases Frame.verify message.payload <;> simp

/-- Messages are answered in order, one by one, and every one of them is accounted for. -/
theorem receptions_accounted (receiving : bus.receiving = true) {events : List Event}
    {hearing : Hearing} (heard : (Hearing.start bus).after events = hearing) :
    (∀ i < hearing.answers.length,
      hearing.answers[i]? = some (match hearing.published[i]? with
        | some message => message.judged
        | none => .closed)) ∧
    hearing.bus.queue.toList = hearing.published.drop hearing.answers.length ∧
    ((hearing.receiver.next hearing.bus).1 = .waiting ↔
      hearing.bus.queue.toList = [] ∧ hearing.bus.publishers ≠ 0) ∧
    ((hearing.receiver.next hearing.bus).1 = .closed ↔
      hearing.bus.queue.toList = [] ∧ hearing.bus.publishers = 0) ∧
    hearing.receiver.received = hearing.replies.countP Reception.isFrame ∧
    hearing.receiver.corrupted = hearing.replies.countP Reception.isCorrupted ∧
    hearing.receiver.corrupted ≤ hearing.receiver.received ∧
    hearing.receiver.received + hearing.replies.countP Reception.isError =
      min hearing.answers.length hearing.published.length ∧
    ∀ error, .failed error ∈ hearing.replies → error.isPerFrame = true := by
  have account : hearing.Accounted := heard ▸ (Hearing.accounted_start receiving).after events
  obtain ⟨waits, closed⟩ := next_iff hearing.receiver account.receiving
  refine ⟨account.answers, account.queue, waits, closed, account.received, account.corrupted,
    ?_, ?_, account.errors⟩
  · rw [account.received, account.corrupted]
    exact List.countP_mono_left fun _ _ => Reception.isFrame_of_isCorrupted
  · have total := account.total
    rw [account.queue, List.length_drop] at total
    omega

/-- A bus for two messages, on which a short one waits. -/
def mixedBus : Bus where
  capacity := 2
  publishers := 1
  queue := Queue.empty.push ⟨⟨"test", "T0001", "A0001", "voice", .server⟩, [16, 51]⟩

/-- A frame of two bytes, the last one open. -/
def mixedMessage (last : UInt8) : Message :=
  ⟨⟨"test", "T0001", "A0001", "voice", .client⟩,
    [16, 51, 232, 5, 0, 1, 3, 232, 0, 2, 233, 16, 4, last]⟩

/-- A damaged frame and an intact one, no room for a third, and nothing after the last end. -/
def mixedEvents : List Event :=
  [.next, .next, .publish (mixedMessage 0), .publish (mixedMessage 192), .publish (mixedMessage 1),
    .openEnd, .closeEnd, .next, .closeEnd, .publish (mixedMessage 192), .openEnd, .next, .next,
    .next]

def mixedHearing : Hearing := (Hearing.start mixedBus).after mixedEvents

theorem mixedHearing_accounted :
    mixedBus.receiving = true ∧
    mixedHearing.replies.map Reception.isWaiting = [false, true, false, false, false, false] ∧
    mixedHearing.published.map (·.payload.getLast?) = [some 51, some 0, some 192] ∧
    (∀ i < 5, mixedHearing.answers[i]? = some (match mixedHearing.published[i]? with
      | some message => message.judged
      | none => .closed)) ∧
    mixedHearing.receiver = ⟨2, 1⟩ ∧ mixedHearing.bus.queue.toList = [] ∧
    2 + mixedHearing.replies.countP Reception.isError = 3 := by
  have heard : (Hearing.start mixedBus).after mixedEvents = mixedHearing := rfl
  obtain ⟨answers, queue, -, -, -, -, -, total, -⟩ := receptions_accounted rfl heard
  have counted : mixedHearing.receiver = ⟨2, 1⟩ := by decide +kernel
  have many : mixedHearing.answers.length = 5 := by decide +kernel
  have three : mixedHearing.published.length = 3 := by decide +kernel
  rw [many] at answers queue total
  rw [counted, three] at total
  refine ⟨rfl, by decide +kernel, by decide +kernel, answers, counted, ?_, total⟩
  rw [queue, List.drop_eq_nil_of_le (by omega)]

end Receiver

end VoiceBus
