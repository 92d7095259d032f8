import VoiceBus.Proofs.Transport.Splice

/-! # Many senders at once

Each sender makes its calls, and a schedule says whose publish comes next. What a sender publishes
does not depend on the transport as long as every publish succeeds. Whatever the schedule, the
messages of one device are those that its sender published, in their order.
-/

namespace VoiceBus

/-- The items of many lists in the order of a schedule, which says from which list the next item is
taken. Every list must be used up. -/
def interleave {α : Type} : List Nat → List (List α) → Option (List α)
  | [], lists => if ∀ list ∈ lists, list.isEmpty then some [] else none
  | i :: schedule, lists =>
    match lists[i]? with
    | some (item :: rest) => (interleave schedule (lists.set i rest)).map (item :: ·)
    | some [] | none => none

theorem owned_set {α β : Type} {owner : α → β} {owners : List β} {lists : List (List α)} {i : Nat}
    {item : α} {rest : List α} (taken : lists[i]? = some (item :: rest))
    (owned : ∀ (j : Nat) (list : List α), lists[j]? = some list →
      ∀ item ∈ list, owners[j]? = some (owner item)) :
    ∀ (j : Nat) (list : List α), (lists.set i rest)[j]? = some list →
      ∀ item ∈ list, owners[j]? = some (owner item) := by
  intro j list here other member
  by_cases same : i = j
  · subst same
    rw [List.getElem?_set_self (List.getElem?_eq_some_iff.1 taken).1, Option.some.injEq] at here
    rw [← here] at member
    exact owned i _ taken other (List.mem_cons_of_mem item member)
  · rw [List.getElem?_set_ne same] at here
    exact owned j list here other member

theorem filter_interleave {α β : Type} [DecidableEq β] (owner : α → β) {owners : List β}
    {schedule : List Nat} {lists : List (List α)} {items : List α}
    (merged : interleave schedule lists = some items) (distinct : owners.Nodup)
    (owned : ∀ (i : Nat) (list : List α), lists[i]? = some list →
      ∀ item ∈ list, owners[i]? = some (owner item)) :
    (∀ item ∈ items, owner item ∈ owners) ∧
    ∀ (i : Nat) (list : List α), lists[i]? = some list → ∀ name, owners[i]? = some name →
      items.filter (owner · = name) = list := by
  induction schedule generalizing lists items with
  | nil =>
    unfold interleave at merged
    split at merged
    · rename_i empty
      cases merged
      refine ⟨by simp, ?_⟩
      intro i list here name _
      exact (List.isEmpty_iff.1 (empty list (List.mem_of_getElem? here))).symm
    · cases merged
  | cons i schedule ih =>
    unfold interleave at merged
    split at merged
    · rename_i item rest taken
      obtain ⟨others, later, rfl⟩ := Option.map_eq_some_iff.1 merged
      have mine : owners[i]? = some (owner item) :=
        owned i _ taken item List.mem_cons_self
      have inside := (List.getElem?_eq_some_iff.1 taken).1
      obtain ⟨known, parts⟩ := ih later (owned_set taken owned)
      refine ⟨List.forall_mem_cons.2 ⟨List.mem_of_getElem? mine, known⟩, ?_⟩
      intro j list here name isName
      by_cases same : i = j
      · subst same
        rw [taken, Option.some.injEq] at here
        rw [mine, Option.some.injEq] at isName
        rw [← here, List.filter_cons_of_pos (by simpa using isName),
          parts i rest (List.getElem?_set_self inside) name (mine.trans (congrArg some isName))]
      · have other : owner item ≠ name := by
          intro isOwner
          rw [← isOwner, ← mine] at isName
          exact same ((List.getElem?_inj (List.getElem?_eq_some_iff.1 mine).1 distinct).1
            isName.symm)
        rw [List.filter_cons_of_neg (by simpa using other)]
        rw [← List.getElem?_set_ne same] at here
        exact parts j list here name isName
    · cases merged
    · cases merged

/-- A transport that takes every message. -/
def Publisher.collect : Publisher (List Message) := fun message taken =>
  (⟨.accepted, []⟩, taken ++ [message])

theorem Publisher.isFifo_collect : Publisher.IsFifo Publisher.collect id := by
  rintro message taken attempt after published
  cases published
  rfl

namespace Sender

/-- What the call sends in one frame is not too long for one. -/
def Call.IsShort : Call → Prop
  | full data => data.length ≤ Frame.maxPayload
  | stream _ => True

instance : (call : Call) → Decidable call.IsShort
  | .full _ => inferInstanceAs (Decidable (_ ≤ _))
  | .stream _ => isTrue trivial

/-! ## Publishing all of a call -/

theorem published_performAll {σ : Type} {publish : Publisher σ} {queue : σ → List Message}
    {sender : Sender} {calls : List Call} {reports : List Report} {before after : σ}
    (fifo : Publisher.IsFifo publish queue)
    (performed : sender.performAll publish queue calls before = (reports, after))
    (sent : ∀ report ∈ reports, report.result = .sent ()) :
    reports.flatMap (·.published) =
      (sender.encodeAll calls).flatten.map (Frame.toMessage sender.topic) := by
  induction calls generalizing sender before reports with
  | nil =>
    cases performed
    rfl
  | cons call rest ih =>
    obtain ⟨result, middle, others, count, published, remaining, rfl⟩ :=
      performAll_cons fifo performed
    rw [List.forall_mem_cons] at sent
    have whole : count = (sender.encode call).1.length := (published.sent.1 sent.1).2
    rw [List.flatMap_cons, ih remaining sent.2, topic_encode, encodeAll, List.flatten_cons,
      List.map_append, whole, List.take_length]

variable {sender : Sender}

theorem ofConfig_eq_ok {config : Config} {clock : Nat → UInt16} {topic : Topic}
    (parsed : config.parsedTopic = .ok topic) (fits : Frame.IsPieceSize config.maxFragment) :
    ofConfig config clock =
      .ok ⟨topic, { audio := config.audio, clock }, config.maxFragment⟩ := by
  simp [ofConfig, Config.validate, parsed, fits]

theorem encode_ne_nil {call : Call} (fits : Frame.IsPieceSize sender.maxFragment)
    (short : call.IsShort) : (sender.encode call).1 ≠ [] := by
  cases call with
  | full data =>
    rw [encode_full_of_length_le short]
    exact List.cons_ne_nil _ _
  | stream data =>
    rw [encode_stream_of_isPieceSize fits, ← List.length_pos_iff, Encoder.length_framesOf,
      List.length_pos_iff]
    exact Encoder.pieces_ne_nil _ _

theorem sent_of_publishAll_collect {topic : Topic} {frames : List Frame}
    {taken after : List Message} {result : SendResult Unit} {notices : List Notice}
    (done : publishAll .collect topic frames taken = (result, notices, after)) :
    result = .sent () := by
  cases publishes_publishAll done with
  | all => rfl
  | failed parts accepted refused => cases refused
  | blocked parts accepted refused => cases refused

theorem sent_performAll_collect {calls : List Call} {reports : List Report}
    {taken after : List Message} (fits : Frame.IsPieceSize sender.maxFragment)
    (short : ∀ call ∈ calls, call.IsShort)
    (performed : sender.performAll .collect id calls taken = (reports, after)) :
    ∀ report ∈ reports, report.result = .sent () := by
  induction calls generalizing sender taken reports with
  | nil =>
    cases performed
    simp
  | cons call rest ih =>
    rcases called : sender.perform .collect call taken with ⟨result, sender', middle⟩
    rcases remaining : sender'.performAll .collect id rest middle with ⟨others, final⟩
    unfold performAll at performed
    rw [called] at performed
    dsimp only at performed
    rw [remaining] at performed
    cases performed
    rw [List.forall_mem_cons] at short ⊢
    cases called_of_perform called with
    | rejected error nothing => exact absurd nothing (encode_ne_nil fits short.1)
    | published frames done =>
      exact ⟨sent_of_publishAll_collect done,
        ih ((sender.maxFragment_encode call).symm ▸ fits) short.2 remaining⟩

/-! ## What is heard of a call -/

theorem payload_encode {call : Call} (fits : Frame.IsPieceSize sender.maxFragment)
    (short : call.IsShort) : (sender.encode call).1.flatMap (·.payload) = call.data := by
  cases call with
  | full data =>
    rw [encode_full_of_length_le short]
    exact List.append_nil _
  | stream data =>
    rw [encode_stream_of_isPieceSize fits, List.flatMap_def, Encoder.map_payload_framesOf,
      Encoder.flatten_pieces]
    rfl

theorem ofFrames?_encode {call : Call} (fits : Frame.IsPieceSize sender.maxFragment)
    (short : call.IsShort) :
    ∃ utterance, Utterance.ofFrames? ((sender.encode call).1.map Frame.received) = some utterance ∧
      utterance.audio = call.data ∧ utterance.frames = call.frameCount sender.maxFragment := by
  have made := encode_ne_nil fits short
  cases out : Utterance.ofFrames? ((sender.encode call).1.map Frame.received) with
  | none =>
    unfold Utterance.ofFrames? at out
    rw [Option.map_eq_none_iff, List.head?_eq_none_iff, List.map_eq_nil_iff] at out
    exact absurd out made
  | some utterance =>
    obtain ⟨audio, frames⟩ := Utterance.eq_of_ofFrames? out
    rw [List.flatMap_map] at audio
    rw [List.length_map, length_encode fits made] at frames
    exact ⟨utterance, rfl, audio.trans (payload_encode fits short), frames⟩

theorem utterances_encodeAll {calls : List Call} (fits : Frame.IsPieceSize sender.maxFragment)
    (short : ∀ call ∈ calls, call.IsShort) :
    (((sender.encodeAll calls).map (·.map Frame.received)).filterMap Utterance.ofFrames?).map
        (fun utterance => (utterance.audio, utterance.frames)) =
      calls.map fun call => (call.data, call.frameCount sender.maxFragment) := by
  induction calls generalizing sender with
  | nil => rfl
  | cons call rest ih =>
    rw [List.forall_mem_cons] at short
    obtain ⟨utterance, out, audio, frames⟩ := ofFrames?_encode fits short.1
    have later := ih ((sender.maxFragment_encode call).symm ▸ fits) short.2
    rw [maxFragment_encode] at later
    rw [encodeAll, List.map_cons, List.filterMap_cons_some out, List.map_cons, List.map_cons,
      later, audio, frames]

theorem checked_encodeAll {calls : List Call} {frame : Frame}
    (h : frame ∈ (sender.encodeAll calls).flatten) :
    Frame.verify frame.encode = .ok frame.received := by
  induction calls generalizing sender with
  | nil => cases h
  | cons call rest ih =>
    rw [encodeAll, List.flatten_cons, List.mem_append] at h
    rcases h with here | later
    · exact (sender.encoded call).checked frame here
    · exact ih later

end Sender

/-! ## Talkers -/

/-- A sender that was opened for a configuration, and the calls it makes. It may number from
anywhere. -/
structure Talker where
  config : Config
  clock : Nat → UInt16
  sender : Sender
  opened : Sender.ofConfig config clock = .ok sender
  /-- What the sender encodes with. -/
  encoder : Encoder
  calls : List Sender.Call
  short : ∀ call ∈ calls, call.IsShort

namespace Talker

def device (talker : Talker) : String := talker.sender.topic.deviceSn

/-- The sender before its first call. -/
def start (talker : Talker) : Sender := talker.sender.withEncoder talker.encoder

/-- What its calls come to when every publish succeeds. -/
def reports (talker : Talker) : List Sender.Report :=
  (talker.start.performAll .collect id talker.calls []).1

/-- What it publishes, in its order. -/
def messages (talker : Talker) : List Message := talker.reports.flatMap (·.published)

/-- The frames of each call. -/
def frames (talker : Talker) : List (List VerifiedFrame) :=
  (talker.start.encodeAll talker.calls).map (·.map Frame.received)

variable (talker : Talker)

theorem isPieceSize : Frame.IsPieceSize talker.start.maxFragment :=
  show Frame.IsPieceSize talker.sender.maxFragment from
    Sender.isPieceSize_of_ofConfig talker.opened

theorem sent_reports : ∀ report ∈ talker.reports, report.result = .sent () :=
  Sender.sent_performAll_collect talker.isPieceSize talker.short rfl

theorem messages_eq : talker.messages =
    (talker.start.encodeAll talker.calls).flatten.map (Frame.toMessage talker.sender.topic) :=
  Sender.published_performAll Publisher.isFifo_collect rfl talker.sent_reports

theorem framesIn_messages : Sender.framesIn talker.messages = talker.frames.flatten := by
  rw [messages_eq, Sender.framesIn_published _ fun _ => Sender.checked_encodeAll, List.map_flatten]
  rfl

theorem verify_of_mem_messages {talker : Talker} {message : Message}
    (h : message ∈ talker.messages) :
    message.topic = talker.sender.topic ∧
      ∃ frame, Frame.verify message.payload = .ok frame ∧ frame.valid = true := by
  rw [messages_eq] at h
  obtain ⟨frame, among, rfl⟩ := List.mem_map.1 h
  exact ⟨rfl, frame.received, Sender.checked_encodeAll among, rfl⟩

theorem isCall_of_mem_frames {talker : Talker} {call : List VerifiedFrame}
    (h : call ∈ talker.frames) : IsCall call := by
  obtain ⟨frames, among, rfl⟩ := List.mem_map.1 h
  exact Sender.isCall_of_mem_encodeAll among

theorem utterances_frames :
    (talker.frames.filterMap Utterance.ofFrames?).map
        (fun utterance => (utterance.audio, utterance.frames)) =
      talker.calls.map fun call => (call.data, call.frameCount talker.sender.maxFragment) :=
  Sender.utterances_encodeAll talker.isPieceSize talker.short

theorem filter_messages {talkers : List Talker} {schedule : List Nat} {messages : List Message}
    (merged : interleave schedule (talkers.map Talker.messages) = some messages)
    (distinct : (talkers.map device).Nodup) :
    (∀ message ∈ messages, ∃ talker ∈ talkers, message ∈ talker.messages) ∧
    ∀ talker ∈ talkers,
      messages.filter (·.topic.deviceSn = talker.device) = talker.messages := by
  obtain ⟨known, parts⟩ := filter_interleave (fun message : Message => message.topic.deviceSn)
    merged distinct (by
      intro i list here message member
      rw [List.getElem?_map, Option.map_eq_some_iff] at here
      obtain ⟨talker, placed, rfl⟩ := here
      rw [List.getElem?_map, placed, Option.map_some, (verify_of_mem_messages member).1]
      rfl)
  have own : ∀ talker ∈ talkers,
      messages.filter (·.topic.deviceSn = talker.device) = talker.messages := by
    intro talker member
    obtain ⟨i, placed⟩ := List.mem_iff_getElem?.1 member
    have name : (talkers.map device)[i]? = some talker.device := by
      rw [List.getElem?_map, placed]
      rfl
    exact parts i _ (by rw [List.getElem?_map, placed]; rfl) talker.device name
  refine ⟨?_, own⟩
  intro message member
  obtain ⟨talker, among, isDevice⟩ := List.mem_map.1 (known message member)
  refine ⟨talker, among, ?_⟩
  rw [← own talker among]
  exact List.mem_filter.2 ⟨member, decide_eq_true isDevice.symm⟩

end Talker

end VoiceBus
