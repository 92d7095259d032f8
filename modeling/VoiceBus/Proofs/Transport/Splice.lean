import Mathlib.Data.List.Nodup
import VoiceBus.Proofs.Assembler.Loss
import VoiceBus.Proofs.Transport.Reports

/-! # Calls that end early splice no utterances

A call that ends early leaves the beginning of an utterance with the receiver. The numbers of the
frames that were not published are used up, so what comes later never continues it.
-/

namespace VoiceBus

namespace Slot

variable {slot : Option Slot} {later : List UInt16} {first : UInt16} {sent : List VerifiedFrame}
  {arrived : List (VerifiedFrame × Nat)} {count : Nat} {clear : Prop}

/-- Between two calls nothing is held, or what is held comes to nothing. -/
def Between (clear : Prop) (later : List UInt16) (slot : Option Slot) : Prop :=
  (clear → slot = none) ∧ (¬ clear → Spoiled later slot)

theorem Spoiled.drop {front : List UInt16} (h : Spoiled (front ++ later) slot) :
    Spoiled later slot := by
  induction front with
  | nil => exact h
  | cons number rest ih => exact ih h.tail

theorem Between.drop {front : List UInt16} (h : Between clear (front ++ later) slot) :
    Between clear later slot :=
  ⟨h.1, fun spoiled => (h.2 spoiled).drop⟩

/-! ## The end of an utterance, and its beginning -/

theorem push_fragment {frame : VerifiedFrame} (valid : frame.valid = true)
    (flag : frame.header.flag? = some .fragment) (slot : Option Slot) (now : Nat) :
    (push slot frame now).2 ≠ none := by
  have taken := pushed slot frame now
  generalize (push slot frame now).1 = event at taken
  generalize (push slot frame now).2 = after at taken ⊢
  cases taken <;> simp_all

theorem afterAll_whole (utterance : IsUtterance first sent) (all : arrived.map Prod.fst = sent) :
    afterAll slot arrived = none := by
  induction utterance generalizing arrived slot with
  | last valid flag =>
    obtain ⟨⟨frame, now⟩, rest, rfl, rfl, others⟩ := List.map_eq_cons_iff.1 all
    obtain rfl := List.map_eq_nil_iff.1 others
    exact push_end slot now ⟨valid, Or.inl flag⟩
  | fragment valid flag others ih =>
    obtain ⟨⟨frame, now⟩, rest, rfl, rfl, tail⟩ := List.map_eq_cons_iff.1 all
    rw [afterAll_cons]
    exact ih tail

theorem afterAll_part (utterance : IsUtterance first sent) (some : 0 < count)
    (below : count < sent.length) (part : arrived.map Prod.fst = sent.take count) :
    afterAll slot arrived ≠ none := by
  induction utterance generalizing arrived slot count with
  | last valid flag =>
    rw [List.length_singleton] at below
    omega
  | fragment valid flag others ih =>
    obtain ⟨count, rfl⟩ := Nat.exists_eq_add_one_of_ne_zero (Nat.ne_of_gt some)
    rw [List.take_succ_cons] at part
    obtain ⟨⟨frame, now⟩, rest, rfl, rfl, tail⟩ := List.map_eq_cons_iff.1 part
    rcases Nat.eq_zero_or_pos count with rfl | more
    · obtain rfl := List.map_eq_nil_iff.1 tail
      exact push_fragment valid flag slot now
    · rw [afterAll_cons]
      exact ih more (Nat.lt_of_succ_lt_succ below) tail

theorem not_suffix_of_take (distinct : sent.Nodup) (some : 0 < count) (below : count < sent.length) :
    ¬ sent.take count <:+ sent := by
  cases sent with
  | nil => cases below
  | cons frame rest =>
    obtain ⟨count, rfl⟩ := Nat.exists_eq_add_one_of_ne_zero (Nat.ne_of_gt some)
    rw [List.take_succ_cons, cons_suffix_cons_of_notMem (List.nodup_cons.1 distinct).1]
    intro same
    have short := congrArg List.length same
    rw [List.length_take] at short
    rw [List.length_cons] at below
    omega

/-! ## What the frames of one call come to -/

theorem stream_heard [Decidable clear] (utterance : IsUtterance first sent)
    (within : count ≤ sent.length) (part : arrived.map Prod.fst = sent.take count)
    (between : Between clear (sent.map (·.header.sequence) ++ later) slot)
    (distinct : (sent.map (·.header.sequence) ++ later).Nodup) :
    (completed slot arrived).map (·.audio) =
        (if count = sent.length ∧ clear then [sent.flatMap (·.payload)] else []) ∧
      Between (if count = 0 then clear else count = sent.length) later (afterAll slot arrived) := by
  have delivered : Delivered sent arrived := by
    apply Delivered.of_sublist
    rw [part]
    exact List.take_sublist count sent
  have some_sent := List.length_pos_iff.2 utterance.ne_nil
  rcases Nat.eq_zero_or_pos count with rfl | some
  · obtain rfl := List.map_eq_nil_iff.1 part
    rw [if_neg (by omega), if_pos rfl]
    exact ⟨rfl, between.drop⟩
  · rw [if_neg (Nat.ne_of_gt some)]
    by_cases all : count = sent.length
    · subst all
      rw [List.take_length] at part
      refine ⟨?_, fun _ => afterAll_whole utterance part, fun partly => absurd rfl partly⟩
      by_cases free : clear
      · obtain rfl := between.1 free
        have outcome := (idle_gives utterance delivered distinct).completed
        obtain ⟨frame, isHead, -⟩ := utterance.head
        rw [outcome, part, if_pos List.suffix_rfl, if_pos ⟨rfl, free⟩, Utterance.ofFrames?, isHead]
        rfl
      · rw [(Spoiled.gives utterance delivered (between.2 free)).completed, if_neg (by simp [free])]
        rfl
    · -- a beginning comes to nothing, and is still in the slot
      have below : count < sent.length := by omega
      have gives : Gives later slot arrived [] := by
        by_cases free : clear
        · obtain rfl := between.1 free
          have outcome := idle_gives utterance delivered distinct
          have frames : sent.Nodup := List.Nodup.of_map _ (List.nodup_append.1 distinct).1
          rwa [part, if_neg (not_suffix_of_take frames some below)] at outcome
        · exact Spoiled.gives utterance delivered (between.2 free)
      rw [if_neg (by simp [all]), gives.completed]
      refine ⟨rfl, fun whole => absurd whole all, fun _ => ?_⟩
      exact gives.settled.resolve_left (afterAll_part utterance some below part)

theorem full_heard {frame : VerifiedFrame} (valid : frame.valid = true)
    (flag : frame.header.flag? = some .full) (within : count ≤ 1)
    (part : arrived.map Prod.fst = [frame].take count)
    (between : Between clear (frame.header.sequence :: later) slot) :
    (completed slot arrived).map (·.audio) = (if count = 1 then [frame.payload] else []) ∧
      Between (if count = 0 then clear else count = 1) later (afterAll slot arrived) := by
  rcases Nat.le_one_iff_eq_zero_or_eq_one.1 within with rfl | rfl
  · obtain rfl := List.map_eq_nil_iff.1 part
    rw [if_neg Nat.zero_ne_one, if_pos rfl]
    exact ⟨rfl, between.1, fun spoiled => (between.2 spoiled).tail⟩
  · obtain ⟨⟨frame, now⟩, rest, rfl, rfl, others⟩ := List.map_eq_cons_iff.1 part
    obtain rfl := List.map_eq_nil_iff.1 others
    have gives : Gives later slot [(frame, now)] [_] :=
      .complete (.full valid flag) (.nil (Or.inl rfl))
    rw [if_pos rfl, if_neg Nat.one_ne_zero, gives.completed]
    obtain ⟨-, left⟩ := completed_cons (.full valid flag) []
    exact ⟨rfl, fun _ => left, fun partly => absurd rfl partly⟩

end Slot

namespace Sender

variable {σ : Type} {publish : Publisher σ} {queue : σ → List Message} {sender : Sender}

def withEncoder (encoder : Encoder) (sender : Sender) : Sender := { sender with encoder }

theorem isPieceSize_of_ofConfig {config : Config} {clock : Nat → UInt16}
    (opened : Sender.ofConfig config clock = .ok sender) :
    Frame.IsPieceSize sender.maxFragment := by
  unfold ofConfig Config.validate at opened
  cases parsed : config.parsedTopic with
  | error error => simp [parsed] at opened
  | ok topic =>
    by_cases fits : Frame.IsPieceSize config.maxFragment
    · simp only [parsed, fits, if_true, Except.ok.injEq] at opened
      rw [← opened]
      exact fits
    · simp [parsed, fits] at opened

/-- Of the calls before, the latest that published anything was published whole. -/
def IsClear (size : Nat) (before : List Report) : Prop :=
  ∀ report ∈ (before.filter fun report => report.published ≠ []).getLast?, report.IsWhole size

instance (size : Nat) (before : List Report) : Decidable (IsClear size before) :=
  inferInstanceAs (Decidable (∀ _ ∈ _, _))

/-- The calls whose sound comes out, behind others: those published whole, and a stream only when
nothing cut off stands right before it. -/
def heard (size : Nat) (before : List Report) : List Report → List Report
  | [] => []
  | report :: rest =>
    if report.IsWhole size ∧ (report.call.isStream = true → IsClear size before) then
      report :: heard size (before ++ [report]) rest
    else heard size (before ++ [report]) rest

theorem heard_sublist (size : Nat) (before reports : List Report) :
    (heard size before reports).Sublist (reports.filter (·.IsWhole size)) := by
  induction reports generalizing before with
  | nil => exact List.Sublist.slnil
  | cons report rest ih =>
    unfold heard
    rw [List.filter_cons]
    split
    · rename_i out
      rw [if_pos (decide_eq_true out.1)]
      exact (ih _).cons_cons report
    · split
      · exact (ih _).cons report
      · exact ih _

theorem isClear_append (size : Nat) (before : List Report) (report : Report) :
    IsClear size (before ++ [report]) ↔
      if report.published = [] then IsClear size before else report.IsWhole size := by
  unfold IsClear
  rw [List.filter_append]
  split
  · rename_i nothing
    simp [nothing]
  · rename_i something
    simp [something]

theorem call_heard {call : Call} {count : Nat} {later : List UInt16} {slot : Option Slot}
    {arrived : List (VerifiedFrame × Nat)} {clear : Prop} [Decidable clear]
    (fits : Frame.IsPieceSize sender.maxFragment) (within : count ≤ (sender.encode call).1.length)
    (part : arrived.map Prod.fst = ((sender.encode call).1.take count).map Frame.received)
    (between : Slot.Between clear ((sender.encode call).1.map (·.header.sequence) ++ later) slot)
    (distinct : ((sender.encode call).1.map (·.header.sequence) ++ later).Nodup) :
    (Slot.completed slot arrived).map (·.audio) =
        (if count = call.frameCount sender.maxFragment ∧ (call.isStream = true → clear) then
          [call.data] else []) ∧
      Slot.Between (if count = 0 then clear else count = call.frameCount sender.maxFragment) later
        (Slot.afterAll slot arrived) := by
  rw [List.map_take] at part
  cases call with
  | full data =>
    by_cases short : data.length ≤ Frame.maxPayload
    · rw [encode_full_of_length_le short] at within part between
      obtain ⟨out, left⟩ := Slot.full_heard rfl (Encoder.flag?_frameOf _ _ _) within part between
      refine ⟨?_, left⟩
      rw [out]
      simp only [Call.frameCount, Call.isStream, Bool.false_eq_true, false_implies, and_true]
      rfl
    · rw [encode_full_of_lt_length (Nat.lt_of_not_le short)] at within part between
      obtain rfl := Nat.le_zero.1 within
      obtain rfl := List.map_eq_nil_iff.1 part
      rw [if_neg (fun whole => Nat.zero_ne_one whole.1), if_pos rfl]
      exact ⟨rfl, between⟩
  | stream data =>
    rw [encode_stream_of_isPieceSize fits] at within part between distinct
    have utterance := Encoder.isUtterance_framesOf sender.encoder
      (Encoder.pieces_ne_nil sender.maxFragment data)
    have length : ((sender.encoder.framesOf (Encoder.pieces sender.maxFragment data)).map
        Frame.received).length = Call.frameCount sender.maxFragment (.stream data) := by
      rw [List.length_map, Encoder.length_framesOf, Encoder.length_pieces fits.1]
      rfl
    have audio : ((sender.encoder.framesOf (Encoder.pieces sender.maxFragment data)).map
        Frame.received).flatMap (·.payload) = data := by
      rw [List.flatMap_map, List.flatMap_def]
      exact (congrArg List.flatten (Encoder.map_payload_framesOf _ _)).trans
        (Encoder.flatten_pieces _ _)
    have outcome := Slot.stream_heard utterance (by rwa [List.length_map]) part
      (by rwa [List.map_map]) (by rwa [List.map_map])
    rw [length, audio] at outcome
    simpa only [Call.isStream, Call.data, true_implies] using outcome

/-- The frames in messages. -/
def framesIn (messages : List Message) : List VerifiedFrame :=
  messages.filterMap fun message => (Frame.verify message.payload).toOption

theorem framesIn_published {frames : List Frame} (topic : Topic)
    (checked : ∀ frame ∈ frames, Frame.verify frame.encode = .ok frame.received) :
    framesIn (frames.map (Frame.toMessage topic)) = frames.map Frame.received := by
  rw [← filterMap_verify checked, framesIn, List.filterMap_map, List.filterMap_map]
  rfl

theorem completed_performAll {calls : List Call} {before : σ} {after : σ} {reports : List Report}
    (fifo : Publisher.IsFifo publish queue) (fits : Frame.IsPieceSize sender.maxFragment)
    (performed : sender.performAll publish queue calls before = (reports, after))
    {earlier : List Report} {slot : Option Slot} {arrived : List (VerifiedFrame × Nat)}
    (read : arrived.map Prod.fst = framesIn (reports.flatMap (·.published)))
    (between : Slot.Between (IsClear sender.maxFragment earlier)
      ((sender.encodeAll calls).flatten.map (·.header.sequence)) slot)
    (distinct : ((sender.encodeAll calls).flatten.map (·.header.sequence)).Nodup) :
    (Slot.completed slot arrived).map (·.audio) =
      (heard sender.maxFragment earlier reports).map (·.call.data) := by
  -- what a call leaves with the receiver waits for a number that no later call uses
  induction calls generalizing sender before reports earlier slot arrived with
  | nil =>
    cases performed
    obtain rfl := List.map_eq_nil_iff.1 read
    rfl
  | cons call rest ih =>
    obtain ⟨result, middle, others, count, published, remaining, rfl⟩ :=
      performAll_cons fifo performed
    rw [encodeAll, List.flatten_cons, List.map_append] at between distinct
    rw [List.flatMap_cons, framesIn, List.filterMap_append, ← framesIn, ← framesIn,
      framesIn_published _ (fun frame member =>
        (sender.encoded call).checked frame (List.mem_of_mem_take member))] at read
    obtain ⟨here, there, rfl, part, read'⟩ := List.map_eq_append_iff.1 read
    obtain ⟨out, left⟩ := call_heard fits published.within part between distinct
    have length : (((sender.encode call).1.take count).map
        (Frame.toMessage sender.topic)).length = count := by
      rw [List.length_map, List.length_take, Nat.min_eq_left published.within]
    have cleared := isClear_append sender.maxFragment earlier ⟨call, result, sender.sequence,
      (sender.encode call).2.sequence,
      ((sender.encode call).1.take count).map (Frame.toMessage sender.topic)⟩
    simp only [← List.length_eq_zero_iff, Report.IsWhole, length] at cleared
    rw [← propext cleared, ← maxFragment_encode sender call] at left
    have further := ih ((sender.maxFragment_encode call).symm ▸ fits) remaining read' left
      (List.nodup_append.1 distinct).2.1
    rw [maxFragment_encode] at further
    rw [Slot.completed_append, List.map_append, out, further, heard]
    simp only [Report.IsWhole, length]
    split
    · rfl
    · rfl

/-- However publishing ends, no utterance is spliced of two calls. -/
theorem sends_never_splice {config : Config} {clock : Nat → UInt16} {encoder : Encoder}
    {calls : List Call} {reports : List Report} {before after : σ}
    (fifo : Publisher.IsFifo publish queue) (opened : Sender.ofConfig config clock = .ok sender)
    (performed : (sender.withEncoder encoder).performAll publish queue calls before =
      (reports, after))
    (few : ((sender.withEncoder encoder).encodeAll calls).flatten.length ≤ 65536) :
    reports.map (·.call) = calls ∧
    (∀ report ∈ reports, report.IsSound sender.topic sender.maxFragment) ∧
    queue after = queue before ++ reports.flatMap (·.published) ∧
    (heard sender.maxFragment [] reports).Sublist
      (reports.filter (·.IsWhole sender.maxFragment)) ∧
    ∀ (expiry : Duration) (arrived : List (Bytes × Nat)),
      arrived.map Prod.fst = (reports.flatMap (·.published)).map (·.payload) →
      (((Assembler.new expiry).events sender.topic.deviceSn (receivedFrames arrived)).filterMap
          AssemblyEvent.complete?).map (·.audio) =
        (heard sender.maxFragment [] reports).map (·.call.data) := by
  have passed := isPieceSize_of_ofConfig opened
  have fits : Frame.IsPieceSize (sender.withEncoder encoder).maxFragment := passed
  have sound := isSound_of_mem_performAll fifo fits performed
  refine ⟨call_performAll fifo performed, sound, queue_performAll fifo performed,
    heard_sublist _ _ _, ?_⟩
  intro expiry arrived all
  have read : (receivedFrames arrived).map Prod.fst =
      framesIn (reports.flatMap (·.published)) := by
    rw [map_fst_receivedFrames, all, List.filterMap_map]
    rfl
  have distinct : (((sender.withEncoder encoder).encodeAll calls).flatten.map
      (·.header.sequence)).Nodup := by
    rw [numbers_encodeAll]
    exact nodup_numbersFrom _ few
  have clear : IsClear (sender.withEncoder encoder).maxFragment [] := by simp [IsClear]
  rw [filterMap_complete?_events, Assembler.get?_new]
  exact completed_performAll fifo fits performed read
    ⟨fun _ => rfl, fun cut => absurd clear cut⟩ distinct

/-- An end of the bus that fails first, as a list says. -/
def flaky : Publisher (List (Option TransportError) × Bus) := fun message (failures, bus) =>
  match failures.headD none with
  | some error => (⟨.failed error, []⟩, failures.tail, bus)
  | none => ((Bus.publisher message bus).1, failures.tail, (Bus.publisher message bus).2)

theorem isFifo_flaky : Publisher.IsFifo flaky (·.2.queue.toList) := by
  rintro message ⟨failures, bus⟩ attempt after published
  unfold flaky at published
  dsimp only at published
  split at published
  · cases published
    simp
  · cases published
    exact Bus.isFifo_publisher _ _ _ _ rfl

def flakySender : Sender :=
  ⟨⟨"test", "T0001", "A0001", "voice", .server⟩, { audio := {}, clock := fun _ => 7 }, 2⟩

/-- A stream is cut off, the next one closes it, and the two calls behind that come out. For the
last call the bus has no room. -/
def flakyRun : List Report × List (Option TransportError) × Bus :=
  (flakySender.withEncoder { audio := {}, sequence := 65534, clock := fun _ => 7 }).performAll
    flaky (·.2.queue.toList) [.stream [1, 2, 3], .stream [4], .full [5], .stream [6, 7, 8], .full [9]]
    ([none, some .closed], { capacity := 5 })

theorem flakyRun_heard :
    flakyRun.1.map (·.result) =
      [.failed (.transport .closed), .sent (), .sent (), .sent (), .blocked] ∧
    flakyRun.1.map (·.next) = [0, 1, 2, 4, 5] ∧
    ∀ (expiry : Duration) (arrived : List (Bytes × Nat)),
      arrived.map Prod.fst = (flakyRun.1.flatMap (·.published)).map (·.payload) →
      (((Assembler.new expiry).events "A0001" (receivedFrames arrived)).filterMap
          AssemblyEvent.complete?).map (·.audio) = [[5], [6, 7, 8]] := by
  have opened : Sender.ofConfig { maxFragment := 2 } (fun _ => 7) = .ok flakySender := by
    unfold ofConfig
    rw [show Config.validate { maxFragment := 2 } = .ok () by decide +kernel,
      show Config.parsedTopic { maxFragment := 2 } = .ok flakySender.topic by decide +kernel]
    rfl
  have performed : _ = (flakyRun.1, flakyRun.2) := rfl
  have few : ((flakySender.withEncoder
      { audio := {}, sequence := 65534, clock := fun _ => 7 }).encodeAll
      [.stream [1, 2, 3], .stream [4], .full [5], .stream [6, 7, 8], .full [9]]).flatten.length ≤
        65536 := by decide +kernel
  obtain ⟨-, -, -, -, out⟩ := sends_never_splice isFifo_flaky opened performed few
  refine ⟨by decide +kernel, by decide +kernel, ?_⟩
  intro expiry arrived all
  rw [show [[5], [6, 7, 8]] = (heard 2 [] flakyRun.1).map (·.call.data) by decide +kernel]
  exact out expiry arrived all

end Sender

end VoiceBus
