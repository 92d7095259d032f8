import VoiceBus.Proofs.Transport.Calls
import VoiceBus.Proofs.Transport.Receiving
import VoiceBus.Session

/-!
# From a sender to the assembler

One sender publishes through a faulty end of the bus, and what is received is pushed. Calls and
receptions may follow each other in any order. Every utterance that comes out is an end of one
call, and each call gives at most one.
-/

namespace VoiceBus

/-- An utterance is made of the payloads of the last frames of a call. -/
def Utterance.EndsCall (utterance : Utterance) (call : List Frame) : Prop :=
  ∃ lost others final, call = lost ++ others ++ [final] ∧
    (final.header.flag? = some .full ∨ final.header.flag? = some .last) ∧
    utterance.audio = (others ++ [final]).flatMap (·.payload) ∧
    utterance.frames = others.length + 1

namespace Session

def replies (session : Session) : List Command → List Reply
  | [] => []
  | command :: rest => (session.step command).reply :: (session.step command).session.replies rest

def Reply.complete? : Reply → Option Utterance
  | .received _ (some event) => event.complete?
  | _ => none

/-- Whether all that a command encoded has been published. -/
def Reply.isPublished : Reply → Bool
  | .sentFull result => result.isPublished
  | .sentStream result => result.isPublished
  | _ => true

/-- What happens on a link: the sender makes a call, or a message is received and pushed. -/
inductive Link
  | call (call : Sender.Call)
  | receive (now : Nat)
  deriving DecidableEq, Repr

def Link.command (name : String) : Link → Command
  | .call (.full data) => .sendFull name data
  | .call (.stream data) => .sendStream name data
  | .receive now => .receiveAndPush now

def Link.call? : Link → Option Sender.Call
  | .call made => some made
  | .receive _ => none

/-- A link on which messages wait for frames that were sent. -/
structure Linked (name : String) (profile : FaultProfile) (sender : Sender)
    (waiting : List VerifiedFrame) (session : Session) : Prop where
  opened : session.senders.get? name = some (sender, .faulty .channel profile)
  queue : Carried sender.topic waiting session.bus.queue.toList

variable {session : Session} {name : String} {sender : Sender} {profile : FaultProfile}
  {waiting : List VerifiedFrame} {turn : Turn}

/-! ## One step -/

theorem send_of_called {α : Type} {sink : Sink} {reply : SendResult α → Reply}
    {call : Sender → Outlet → SendResult α × List Notice × Sender × Outlet}
    {result : SendResult α} {notices : List Notice} {sender' : Sender} {after : Outlet}
    (opened : session.senders.get? name = some (sender, sink))
    (called : call sender (session.outlet sink) = (result, notices, sender', after)) :
    session.send name reply call =
      { reply := reply result
        recorded := after.recorded.toList
        notices
        session := { session.after after with
          senders := session.senders.insert name (sender', after.sink) } } := by
  unfold send
  rw [opened]
  dsimp only
  rw [called]

theorem linked_of_took {call : Sender.Call} {after : Outlet}
    (linked : Linked name profile sender waiting session)
    (took : (session.outlet (.faulty .channel profile)).Took sender.topic profile
      (sender.encode call).1 after) :
    Linked name profile (sender.encode call).2
      (waiting ++ (sender.encode call).1.map Frame.received)
      { session.after after with
        senders := session.senders.insert name ((sender.encode call).2, after.sink) } where
  opened := by
    rw [took.sink]
    exact Table.get?_insert_self _ _ _
  queue := by
    obtain ⟨messages, grown, carried⟩ := took.queue
    rw [(sender.encoded call).topic]
    change Carried _ _ after.bus.queue.toList
    rw [grown]
    exact linked.queue.append carried

theorem linked_call {call : Sender.Call} (linked : Linked name profile sender waiting session)
    (spared : session.chance.Spares profile (sender.encode call).1)
    (done : session.step ((Link.call call).command name) = turn)
    (published : turn.reply.isPublished = true) :
    Linked name profile (sender.encode call).2
        (waiting ++ (sender.encode call).1.map Frame.received) turn.session ∧
      turn.session.chance = session.chance.skip (sender.encode call).1.length ∧
      turn.session.assembler = session.assembler ∧ turn.reply.complete? = none := by
  cases call with
  | full data =>
    rcases called : Sender.sendFull Outlet.publish data sender
      (session.outlet (.faulty .channel profile)) with ⟨result, notices, sender', after⟩
    have sent : session.step ((Link.call (.full data)).command name) = _ :=
      send_of_called linked.opened called
    rw [sent] at done
    subst done
    obtain ⟨rfl, took⟩ := Sender.took_of_called rfl spared (Sender.called_of_sendFull called)
      ((SendResult.isPublished_forget result).trans published)
    exact ⟨linked_of_took linked took, took.chance, rfl, rfl⟩
  | stream data =>
    rcases called : Sender.sendStream Outlet.publish data sender
      (session.outlet (.faulty .channel profile)) with ⟨result, notices, sender', after⟩
    have sent : session.step ((Link.call (.stream data)).command name) = _ :=
      send_of_called linked.opened called
    rw [sent] at done
    subst done
    obtain ⟨rfl, took⟩ := Sender.took_of_called rfl spared (Sender.called_of_sendStream called)
      ((SendResult.isPublished_forget result).trans published)
    exact ⟨linked_of_took linked took, took.chance, rfl, rfl⟩

theorem linked_receive {now : Nat} (linked : Linked name profile sender waiting session)
    (done : session.step ((Link.receive now).command name) = turn) :
    ∃ rest, Linked name profile sender rest turn.session ∧
      turn.session.chance = session.chance ∧
      ((turn.reply.complete? = none ∧ turn.session.assembler = session.assembler ∧
        ∀ later arrived, Delivered (rest ++ later) arrived → Delivered (waiting ++ later) arrived) ∨
      ∃ frame, turn.reply.complete? =
          (session.assembler.push sender.topic.deviceSn frame now).1.complete? ∧
        turn.session.assembler = (session.assembler.push sender.topic.deviceSn frame now).2 ∧
        ∀ later arrived, Delivered (rest ++ later) arrived →
          Delivered (waiting ++ later) ((frame, now) :: arrived)) := by
  have received : session.receive (some now) = turn := done
  unfold receive at received
  split at received
  · subst received
    exact ⟨waiting, linked, rfl, Or.inl ⟨rfl, rfl, fun _ _ => id⟩⟩
  · rename_i receiver _
    cases oldest : session.bus.queue.pop? with
    | none =>
      rw [receiver.next_of_empty oldest] at received
      cases alive : session.bus.receiving && session.bus.publishers != 0
      all_goals
        rw [alive] at received
        subst received
        exact ⟨waiting, ⟨linked.opened, linked.queue⟩, rfl, Or.inl ⟨rfl, rfl, fun _ _ => id⟩⟩
    | some taken =>
      obtain ⟨message, queue⟩ := taken
      have carried := linked.queue
      rw [Queue.toList_of_pop? oldest] at carried
      obtain ⟨topic, rest, left, ok, broken⟩ := carried.pop
      rw [receiver.next_of_message oldest] at received
      cases read : Frame.verify message.payload with
      | error error =>
        rw [Message.judged_of_error read] at received
        subst received
        exact ⟨rest, ⟨linked.opened, left⟩, rfl, Or.inl ⟨rfl, rfl, broken error read⟩⟩
      | ok frame =>
        rw [Message.judged_of_frame read] at received
        subst received
        rw [← topic]
        exact ⟨rest, ⟨linked.opened, left⟩, rfl, Or.inr ⟨frame, rfl, rfl, fun later arrived =>
          ok frame read later arrived now⟩⟩

/-! ## All steps -/

theorem linked_replies {links : List Link} (linked : Linked name profile sender waiting session)
    (spared : session.chance.Spares profile
      (sender.encodeAll (links.filterMap Link.call?)).flatten)
    (published : ∀ reply ∈ session.replies (links.map (Link.command name)), reply.isPublished = true) :
    ∃ arrived,
      Delivered (waiting ++
        (sender.encodeAll (links.filterMap Link.call?)).flatten.map Frame.received) arrived ∧
      (session.replies (links.map (Link.command name))).filterMap Reply.complete? =
        Slot.completed (session.assembler.slots.get? sender.topic.deviceSn) arrived := by
  -- the frames of a call wait behind those of the calls before, and a reception takes the oldest
  induction links generalizing session sender waiting with
  | nil => exact ⟨[], .of_sublist (List.nil_sublist _), rfl⟩
  | cons link rest ih =>
    rw [List.map_cons, replies, List.forall_mem_cons] at published
    rw [List.map_cons, replies]
    cases link with
    | call call =>
      have calls : (Link.call call :: rest).filterMap Link.call? =
          call :: rest.filterMap Link.call? := rfl
      rw [calls, Sender.encodeAll, List.flatten_cons] at spared ⊢
      rw [Chance.spares_append] at spared
      obtain ⟨after, chance, assembler, silent⟩ :=
        linked_call linked spared.1 rfl published.1
      have spared' := spared.2
      rw [← chance] at spared'
      obtain ⟨arrived, delivered, out⟩ := ih after spared' published.2
      refine ⟨arrived, ?_, ?_⟩
      · rwa [List.append_assoc, ← List.map_append] at delivered
      · rw [List.filterMap_cons_none silent, out, assembler, (sender.encoded call).topic]
    | receive now =>
      have calls : (Link.receive now :: rest).filterMap Link.call? =
          rest.filterMap Link.call? := rfl
      rw [calls] at spared ⊢
      obtain ⟨left, after, chance, pushed⟩ := linked_receive linked rfl
      rw [← chance] at spared
      obtain ⟨arrived, delivered, out⟩ := ih after spared published.2
      rcases pushed with ⟨silent, assembler, lost⟩ | ⟨frame, event, assembler, reached⟩
      · refine ⟨arrived, lost _ _ delivered, ?_⟩
        rw [List.filterMap_cons_none silent, out, assembler]
      · refine ⟨(frame, now) :: arrived, reached _ _ delivered, ?_⟩
        rw [assembler, Assembler.get?_push_self] at out
        rw [filterMap_cons_toList, event, out]
        rfl

theorem endsCall_of_isEndOf {utterance : Utterance} {call : List Frame}
    (sent : IsCall (call.map Frame.received)) (h : utterance.IsEndOf (call.map Frame.received)) :
    utterance.EndsCall call := by
  obtain ⟨tail, ⟨before, parts⟩, made⟩ := h
  obtain ⟨lost, kept, rfl, rfl, rfl⟩ := List.append_eq_map_iff.1 parts
  rcases List.eq_nil_or_concat kept with rfl | ⟨others, final, rfl⟩
  · cases made
  · rw [List.concat_eq_append] at made sent ⊢
    obtain ⟨audio, frames⟩ := Utterance.eq_of_ofFrames? made
    refine ⟨lost, others, final, (List.append_assoc ..).symm, ?_, ?_, ?_⟩
    · have ends : ((lost ++ (others ++ [final])).map Frame.received).getLast? =
          some final.received := by simp
      have flag := sent.flag_getLast? ends
      unfold Frame.received at flag
      rwa [Header.flag?_truncate] at flag
    · rw [audio, List.flatMap_map]
      rfl
    · rw [frames, List.length_map, List.length_append]
      rfl

/-- Whatever is lost or damaged, what comes out is an end of one call, in the order of the calls. -/
theorem completed_end_calls {links : List Link}
    (opened : session.senders.get? name = some (sender, .faulty .channel profile))
    (empty : session.bus.queue.toList = [])
    (fresh : session.assembler.slots.get? sender.topic.deviceSn = none)
    (few : (sender.encodeAll (links.filterMap Link.call?)).flatten.length ≤ 65536)
    (spared : session.chance.Spares profile
      (sender.encodeAll (links.filterMap Link.call?)).flatten)
    (published : ∀ reply ∈ session.replies (links.map (Link.command name)), reply.isPublished = true) :
    ∃ picked, picked.Sublist (sender.encodeAll (links.filterMap Link.call?)) ∧
      List.Forall₂ Utterance.EndsCall
        ((session.replies (links.map (Link.command name))).filterMap Reply.complete?) picked := by
  have linked : Linked name profile sender [] session := by
    refine ⟨opened, ?_⟩
    rw [empty]
    exact .nil
  obtain ⟨arrived, delivered, out⟩ := linked_replies linked spared published
  rw [fresh] at out
  rw [List.nil_append, List.map_flatten] at delivered
  have each : ∀ call ∈ (sender.encodeAll (links.filterMap Link.call?)).map (·.map Frame.received),
      IsCall call := by
    intro call member
    obtain ⟨frames, among, rfl⟩ := List.mem_map.1 member
    exact Sender.isCall_of_mem_encodeAll among
  have distinct : (((sender.encodeAll (links.filterMap Link.call?)).map
      (·.map Frame.received)).flatten.map (·.header.sequence)).Nodup := by
    rw [← List.map_flatten, List.map_map]
    have numbers := Sender.numbers_encodeAll sender (links.filterMap Link.call?)
    have nodup := nodup_numbersFrom sender.encoder.sequence few
    rw [← numbers] at nodup
    exact nodup
  obtain ⟨picked, chosen, made⟩ := Slot.calls_give each delivered (Or.inl rfl) distinct
  obtain ⟨calls, among, rfl⟩ := List.sublist_map_iff.1 chosen
  refine ⟨calls, among, ?_⟩
  have sent : ∀ call ∈ calls, IsCall (call.map Frame.received) := by
    intro call member
    exact Sender.isCall_of_mem_encodeAll (among.subset member)
  rw [List.forall₂_map_right_iff] at made
  rw [out]
  have both := (List.forall₂_and_left calls _).2 ⟨sent, List.Forall₂.flip made⟩
  exact List.Forall₂.flip (both.imp fun call utterance h => endsCall_of_isEndOf h.1 h.2)

/-! ## A noisy link -/

def halfDraw (below : Bool) : Draw :=
  if below then ⟨1 / 4, by decide +kernel, by decide +kernel⟩
  else ⟨3 / 4, by decide +kernel, by decide +kernel⟩

/-- The first frame is lost, and a bit of the fourth is flipped. -/
def noisyLuck (i : Nat) : Luck where
  loss := halfDraw (i == 0)
  corruption := halfDraw (i == 3)
  bit := 100

def noisySender : Sender :=
  ⟨⟨"vendor", "toy", "A0001", "voice", .server⟩, { audio := {}, clock := fun _ => 7 }, 2⟩

def noisySession : Session :=
  { Session.new 8 ⟨120, 0⟩ noisyLuck with
    senders := Table.empty.insert "main" (noisySender, .faulty .channel ⟨1 / 2, 1 / 2⟩) }

def noisyLinks : List Link :=
  [.call (.stream [1, 2, 3, 4, 5]), .receive 0, .call (.full [6]), .receive 1, .receive 2]

theorem noisySession_completes :
    ((noisySession.replies (noisyLinks.map (Link.command "main"))).filterMap
      Reply.complete?).map (·.audio) = [[3, 4, 5]] ∧
    ∃ picked, picked.Sublist (noisySender.encodeAll (noisyLinks.filterMap Link.call?)) ∧
      List.Forall₂ Utterance.EndsCall
        ((noisySession.replies (noisyLinks.map (Link.command "main"))).filterMap Reply.complete?)
        picked :=
  ⟨by decide +kernel, completed_end_calls rfl rfl rfl (by decide +kernel) (by decide +kernel)
    (by decide +kernel)⟩

end Session

end VoiceBus
