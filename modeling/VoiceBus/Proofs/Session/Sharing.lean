import VoiceBus.Proofs.Assembler.Whole
import VoiceBus.Proofs.Session.Link
import VoiceBus.Proofs.Transport.Talkers

/-! # Many devices on one bus

The publishes of many senders come in any order, and so do the receptions. Every device is heard as
if it had the bus for itself.
-/

namespace VoiceBus

/-- What a message that is received gives the assembler. -/
def Message.input? (message : Message) (now : Nat) : Option Assembler.Input :=
  (Frame.verify message.payload).toOption.map fun frame => .push message.topic.deviceSn frame now

def inputsOf (taken : List (Message × Nat)) : List Assembler.Input :=
  taken.filterMap fun arrival => arrival.1.input? arrival.2

theorem inputsOf_singleton (message : Message) (now : Nat) :
    inputsOf [(message, now)] = (message.input? now).toList :=
  (filterMap_cons_toList ..).trans (List.append_nil _)

theorem inputsOf_append (first second : List (Message × Nat)) :
    inputsOf (first ++ second) = inputsOf first ++ inputsOf second :=
  List.filterMap_append

def Receiver.takeAll (receiver : Receiver) (messages : List Message) : Receiver :=
  messages.foldl (fun receiver message => (receiver.take message).2) receiver

theorem evict_notMem_inputsOf (taken : List (Message × Nat)) (now : Nat) :
    .evict now ∉ inputsOf taken := by
  intro member
  obtain ⟨arrival, -, given⟩ := List.mem_filterMap.1 member
  obtain ⟨frame, -, isInput⟩ := Option.map_eq_some_iff.1 given
  cases isInput

theorem arrivals_inputsOf (device : String) (taken : List (Message × Nat)) :
    (Assembler.arrivals device (inputsOf taken)).map Prod.fst =
      Sender.framesIn ((taken.map Prod.fst).filter (·.topic.deviceSn = device)) := by
  induction taken with
  | nil => rfl
  | cons arrival rest ih =>
    obtain ⟨message, now⟩ := arrival
    have parts : inputsOf ((message, now) :: rest) =
        (message.input? now).toList ++ inputsOf rest := filterMap_cons_toList ..
    rw [parts, Message.input?, List.map_cons]
    by_cases mine : message.topic.deviceSn = device
    · rw [List.filter_cons_of_pos (by simpa using mine), Sender.framesIn, filterMap_cons_toList,
        ← Sender.framesIn, ← ih]
      cases Frame.verify message.payload with
      | error error => rfl
      | ok frame => simp [Except.toOption, Assembler.arrivals, mine]
    · rw [List.filter_cons_of_neg (by simpa using mine), ← ih]
      cases Frame.verify message.payload with
      | error error => rfl
      | ok frame => simp [Except.toOption, Assembler.arrivals, mine]

theorem Receiver.takeAll_of_intact (receiver : Receiver) {messages : List Message}
    (intact : ∀ message ∈ messages,
      ∃ frame, Frame.verify message.payload = .ok frame ∧ frame.valid = true) :
    receiver.takeAll messages =
      ⟨receiver.received + messages.length, receiver.corrupted⟩ := by
  induction messages generalizing receiver with
  | nil => rfl
  | cons message rest ih =>
    rw [List.forall_mem_cons] at intact
    obtain ⟨⟨frame, read, valid⟩, others⟩ := intact
    have taken : receiver.takeAll (message :: rest) =
        (receiver.take message).2.takeAll rest := rfl
    rw [taken, ih _ others]
    simp [take, read, valid, Nat.add_assoc, Nat.add_comm 1]

namespace Session

/-- What happens on a bus that is shared: somebody publishes, or a message is received and
pushed. -/
inductive Traffic
  | publish (message : Message)
  | receive (now : Nat)
  deriving DecidableEq, Repr

def Traffic.command : Traffic → Command
  | .publish message => .publish message.topic message.payload .channel
  | .receive now => .receiveAndPush now

def Traffic.message? : Traffic → Option Message
  | .publish message => some message
  | .receive _ => none

def afterAll (session : Session) : List Command → Session
  | [] => session
  | command :: rest => (session.step command).session.afterAll rest

/-- Whether what was published, if anything, was accepted. -/
def Reply.isAccepted : Reply → Bool
  | .published outcome => outcome = .accepted
  | _ => true

/-- The device whose frame was pushed, and what became of it. -/
def Reply.heard? : Reply → Option (String × AssemblyEvent)
  | .received (.frame brought) (some event) => some (brought.topic.deviceSn, event)
  | _ => none

/-- Messages were published, the oldest were taken, and the assembler got what these held. -/
structure Moves (session : Session) (published : List Message) (taken : List (Message × Nat))
    (heard : List (String × AssemblyEvent)) (after : Session) : Prop where
  queue : session.bus.queue.toList ++ published =
    taken.map Prod.fst ++ after.bus.queue.toList
  assembler : after.assembler = session.assembler.after (inputsOf taken)
  heard : heard = session.assembler.log (inputsOf taken)
  receiver : after.receiver = session.receiver.map (·.takeAll (taken.map Prod.fst))

variable {session middle after : Session}

namespace Moves

theorem stay (session : Session) : Moves session [] [] [] session where
  queue := List.append_nil _
  assembler := rfl
  heard := rfl
  receiver := (Option.map_id' ..).symm

theorem trans {published more : List Message} {taken further : List (Message × Nat)}
    {heard later : List (String × AssemblyEvent)} (h : Moves session published taken heard middle)
    (h' : Moves middle more further later after) :
    Moves session (published ++ more) (taken ++ further) (heard ++ later) after where
  queue := by
    rw [← List.append_assoc, h.queue, List.append_assoc, h'.queue, List.map_append,
      List.append_assoc]
  assembler := by
    rw [h'.assembler, h.assembler, inputsOf_append, Assembler.after_append]
  heard := by
    rw [h.heard, h'.heard, h.assembler, inputsOf_append, Assembler.log_append]
  receiver := by
    rw [h'.receiver, h.receiver, Option.map_map]
    simp only [Function.comp_def, Receiver.takeAll, List.map_append, List.foldl_append]

end Moves

/-! ## One step, and all -/

theorem moves_publish {message : Message}
    (accepted : (session.step (Traffic.publish message).command).reply.isAccepted = true) :
    Moves session [message] []
      (session.step (Traffic.publish message).command).reply.heard?.toList
      (session.step (Traffic.publish message).command).session := by
  have step : session.step (Traffic.publish message).command =
      session.publish message.topic message.payload .channel := rfl
  rw [step] at accepted ⊢
  unfold publish at accepted ⊢
  split
  · rename_i opens
    rw [if_pos opens] at accepted
    have queued := Bus.publish_accepted (Prod.ext (of_decide_eq_true accepted) rfl)
    refine ⟨?_, rfl, rfl, ?_⟩
    · have grown := congrArg (fun bus => bus.queue.toList) queued
      rw [Queue.toList_push] at grown
      exact grown.symm
    · exact (Option.map_id' ..).symm
  · rename_i shut
    rw [if_neg shut] at accepted
    simp [Reply.isAccepted] at accepted

theorem pushed_judged (assembler : Assembler) (now : Nat) (message : Message) :
    (pushReceived assembler now message.judged).2.2 = assembler.after (inputsOf [(message, now)]) ∧
      (Reply.received message.judged
        (pushReceived assembler now message.judged).1).heard?.toList =
        assembler.log (inputsOf [(message, now)]) := by
  rw [inputsOf_singleton, Message.input?, Message.judged]
  cases Frame.verify message.payload with
  | error error => exact ⟨rfl, rfl⟩
  | ok frame => exact ⟨rfl, rfl⟩

theorem moves_receive (session : Session) (now : Nat) :
    ∃ taken, Moves session [] taken
      (session.step (Traffic.receive now).command).reply.heard?.toList
      (session.step (Traffic.receive now).command).session := by
  have step : session.step (Traffic.receive now).command = session.receive (some now) := rfl
  rw [step]
  unfold receive
  cases listening : session.receiver with
  | none => exact ⟨[], List.append_nil _, rfl, rfl, by rw [listening]; rfl⟩
  | some receiver =>
    dsimp only
    cases oldest : session.bus.queue.pop? with
    | none =>
      rw [receiver.next_of_empty oldest]
      cases session.bus.receiving && session.bus.publishers != 0
      all_goals exact ⟨[], List.append_nil _, rfl, rfl, by rw [listening]; rfl⟩
    | some found =>
      obtain ⟨message, rest⟩ := found
      obtain ⟨pushed, told⟩ := pushed_judged session.assembler now message
      rw [receiver.next_of_message oldest]
      refine ⟨[(message, now)], ?_, pushed, told, by rw [listening]; rfl⟩
      rw [Queue.toList_of_pop? oldest]
      exact List.append_nil _

theorem moves_traffic {traffic : List Traffic}
    (accepted : ∀ reply ∈ session.replies (traffic.map Traffic.command),
      reply.isAccepted = true) :
    ∃ taken, Moves session (traffic.filterMap Traffic.message?) taken
      ((session.replies (traffic.map Traffic.command)).filterMap Reply.heard?)
      (session.afterAll (traffic.map Traffic.command)) := by
  induction traffic generalizing session with
  | nil => exact ⟨[], .stay session⟩
  | cons event rest ih =>
    rw [List.map_cons, replies, List.forall_mem_cons] at accepted
    obtain ⟨further, later⟩ := ih accepted.2
    rw [List.map_cons, replies, filterMap_cons_toList, filterMap_cons_toList, afterAll]
    cases event with
    | publish message => exact ⟨_, (moves_publish accepted.1).trans later⟩
    | receive now =>
      obtain ⟨taken, moved⟩ := moves_receive session now
      exact ⟨_, moved.trans later⟩

/-! ## What is heard -/

theorem hears_talkers {capacity : Nat} {expiry : Duration} {luck : Nat → Luck}
    {talkers : List Talker} {schedule : List Nat} {messages : List Message}
    {taken : List (Message × Nat)} {heard : List (String × AssemblyEvent)} {final : Session}
    (distinct : (talkers.map Talker.device).Nodup)
    (merged : interleave schedule (talkers.map Talker.messages) = some messages)
    (moved : Moves (Session.new capacity expiry luck) messages taken heard final)
    (all : taken.map Prod.fst = messages) (device : String) :
    ∃ calls : List (List VerifiedFrame),
      (∀ talker ∈ talkers, talker.device = device → calls = talker.frames) ∧
      (∀ event, (device, event) ∈ heard → ¬ event.IsRejected) ∧
      Assembler.utterancesOf device heard = calls.filterMap Utterance.ofFrames? ∧
      final.assembler.slots.get? device = none := by
  obtain ⟨known, own⟩ := Talker.filter_messages merged distinct
  have arrived := arrivals_inputsOf device taken
  rw [all] at arrived
  rw [moved.heard, moved.assembler]
  by_cases talks : ∃ talker ∈ talkers, talker.device = device
  · obtain ⟨talker, among, rfl⟩ := talks
    rw [own talker among, talker.framesIn_messages] at arrived
    refine ⟨talker.frames, ?_, Assembler.hears_device (fun _ => Talker.isCall_of_mem_frames) arrived
      (evict_notMem_inputsOf taken)⟩
    intro other member same
    rw [List.inj_on_of_nodup_map distinct member among same]
  · have silent : messages.filter (·.topic.deviceSn = device) = [] := by
      rw [List.filter_eq_nil_iff]
      intro message member isDevice
      obtain ⟨talker, among, sent⟩ := known message member
      refine talks ⟨talker, among, ?_⟩
      rw [← of_decide_eq_true isDevice, (Talker.verify_of_mem_messages sent).1]
      rfl
    rw [silent] at arrived
    refine ⟨[], ?_, Assembler.hears_device (by simp) arrived (evict_notMem_inputsOf taken)⟩
    intro talker among isDevice
    exact absurd ⟨talker, among, isDevice⟩ talks

/-- Senders of different devices share a bus, and each is heard to say what its sender said. -/
theorem devices_share_bus {capacity : Nat} {expiry : Duration} {luck : Nat → Luck}
    {talkers : List Talker} {schedule : List Nat} {traffic : List Traffic} {answers : List Reply}
    {final : Session} (distinct : (talkers.map Talker.device).Nodup)
    (merged : interleave schedule (talkers.map Talker.messages) =
      some (traffic.filterMap Traffic.message?))
    (answered : (Session.new capacity expiry luck).replies (traffic.map Traffic.command) = answers)
    (accepted : ∀ reply ∈ answers, reply.isAccepted = true)
    (ended : (Session.new capacity expiry luck).afterAll (traffic.map Traffic.command) = final)
    (drained : final.bus.queue.toList = []) :
    (∀ talker ∈ talkers, ∀ report ∈ talker.reports, report.result = .sent ()) ∧
    (∀ entry ∈ answers.filterMap Reply.heard?, ¬ entry.2.IsRejected) ∧
    (∀ talker ∈ talkers,
      (Assembler.utterancesOf talker.device (answers.filterMap Reply.heard?)).map
          (fun utterance => (utterance.audio, utterance.frames)) =
        talker.calls.map fun call => (call.data, call.frameCount talker.sender.maxFragment)) ∧
    final.receiver = some ⟨(traffic.filterMap Traffic.message?).length, 0⟩ ∧
    final.assembler.pending = 0 ∧ ∀ device, final.assembler.isResyncing device = false := by
  subst answered
  obtain ⟨taken, moved⟩ := moves_traffic accepted
  rw [ended] at moved
  have all : taken.map Prod.fst = traffic.filterMap Traffic.message? := by
    have queue := moved.queue
    rw [drained, List.append_nil] at queue
    exact queue.symm
  have hears := hears_talkers distinct merged moved all
  have idle (device : String) : final.assembler.slots.get? device = none := by
    obtain ⟨calls, -, -, -, free⟩ := hears device
    exact free
  refine ⟨fun talker _ => talker.sent_reports, ?_, ?_, ?_, Table.count_eq_zero idle _, ?_⟩
  · rintro ⟨device, event⟩ member
    obtain ⟨calls, -, accepts, -⟩ := hears device
    exact accepts event member
  · intro talker among
    obtain ⟨calls, own, -, utterances, -⟩ := hears talker.device
    rw [utterances, own talker among rfl, talker.utterances_frames]
  · have intact : ∀ message ∈ traffic.filterMap Traffic.message?,
        ∃ frame, Frame.verify message.payload = .ok frame ∧ frame.valid = true := by
      intro message member
      obtain ⟨talker, -, sent⟩ := (Talker.filter_messages merged distinct).1 message member
      exact (Talker.verify_of_mem_messages sent).2
    rw [moved.receiver, all]
    refine congrArg some ((Receiver.takeAll_of_intact {} intact).trans ?_)
    rw [Nat.zero_add]
  · intro device
    rw [Assembler.isResyncing, idle device]
    rfl

/-! ## Two devices -/

/-- A stream whose numbers wrap, and a full frame. -/
def kitchen : Talker where
  config := { topic := "test/T0001/KITCHEN/voice/server", maxFragment := 2 }
  clock := fun _ => 7
  sender :=
    ⟨⟨"test", "T0001", "KITCHEN", "voice", .server⟩, { audio := {}, clock := fun _ => 7 }, 2⟩
  opened := Sender.ofConfig_eq_ok (by decide +kernel) (by decide)
  encoder := { audio := {}, sequence := 65535, clock := fun _ => 7 }
  calls := [.stream [1, 2, 3], .full [9]]
  short := by decide

/-- An empty stream and one of two pieces. -/
def hall : Talker where
  config := { topic := "test/T0001/HALL/voice/server", maxFragment := 2 }
  clock := fun _ => 7
  sender := ⟨⟨"test", "T0001", "HALL", "voice", .server⟩, { audio := {}, clock := fun _ => 7 }, 2⟩
  opened := Sender.ofConfig_eq_ok (by decide +kernel) (by decide)
  encoder := { audio := {}, clock := fun _ => 7 }
  calls := [.stream [], .stream [4, 5, 6]]
  short := by decide

/-- On a bus that holds one message each is received before the next is published. -/
def homeTraffic : List Traffic :=
  ((interleave [0, 1, 1, 0, 0, 1] [kitchen.messages, hall.messages]).getD []).flatMap
    (fun message => [.receive 3, .publish message]) ++ [.receive 3]

def homeAnswers : List Reply :=
  (Session.new 1 (.ofSeconds 5) noisyLuck).replies (homeTraffic.map Traffic.command)

theorem home_shares_bus :
    (∀ reply ∈ homeAnswers, reply.isAccepted = true) ∧
    (Assembler.utterancesOf "KITCHEN" (homeAnswers.filterMap Reply.heard?)).map
        (fun utterance => (utterance.audio, utterance.frames)) = [([1, 2, 3], 2), ([9], 1)] ∧
    (Assembler.utterancesOf "HALL" (homeAnswers.filterMap Reply.heard?)).map
        (fun utterance => (utterance.audio, utterance.frames)) = [([], 1), ([4, 5, 6], 2)] := by
  have distinct : ([kitchen, hall].map Talker.device).Nodup := by decide +kernel
  have merged : interleave [0, 1, 1, 0, 0, 1] ([kitchen, hall].map Talker.messages) =
      some (homeTraffic.filterMap Traffic.message?) := by decide +kernel
  have accepted : ∀ reply ∈ homeAnswers, reply.isAccepted = true := by decide +kernel
  obtain ⟨-, -, utterances, -⟩ :=
    devices_share_bus distinct merged rfl accepted rfl (by decide +kernel)
  exact ⟨accepted, utterances kitchen (by simp), utterances hall (by simp)⟩

end Session

end VoiceBus
