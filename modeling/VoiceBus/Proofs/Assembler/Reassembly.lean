import VoiceBus.Proofs.Assembler.Calls
import VoiceBus.Proofs.Assembler.Device

/-! # Cutting and joining

The pieces of an utterance that all arrive give the utterance back, whatever arrives from other
devices meanwhile and whatever is evicted in time.
-/

namespace VoiceBus

/-- What becomes of pieces that all arrive, behind what is held already: each piece but the last is
kept, and the last one completes the utterance. -/
def joinEvents (held : Pending) (payloads : List Bytes) : List AssemblyEvent :=
  (List.range (payloads.length - 1)).map (fun i =>
      .buffered (held.audio ++ (payloads.take (i + 1)).flatten).length) ++
    [.complete ⟨held.header, held.audio ++ payloads.flatten, held.frames + payloads.length⟩]

theorem joinEvents_singleton (held : Pending) (sequence : UInt16) (payload : Bytes) :
    joinEvents held [payload] = [.complete (held.extend sequence payload).toUtterance] := by
  simp [joinEvents, Pending.extend, Pending.toUtterance]

theorem joinEvents_cons (held : Pending) (sequence : UInt16) (payload : Bytes)
    {rest : List Bytes} (more : rest ≠ []) :
    joinEvents held (payload :: rest) =
      .buffered (held.audio ++ payload).length ::
        joinEvents (held.extend sequence payload) rest := by
  obtain ⟨count, counted⟩ := Nat.exists_eq_succ_of_ne_zero (mt List.length_eq_zero_iff.1 more)
  unfold joinEvents
  rw [List.length_cons, counted, Nat.succ_sub_one, Nat.succ_sub_one, List.range_succ_eq_map]
  simp [Pending.extend, Function.comp_def, Nat.add_comm, Nat.add_left_comm]

def AssemblyEvent.IsBuffered (event : AssemblyEvent) : Prop := ∃ bytes, event = .buffered bytes

theorem joinEvents_eq_append (held : Pending) (payloads : List Bytes) :
    ∃ kept, joinEvents held payloads = kept ++
        [.complete ⟨held.header, held.audio ++ payloads.flatten, held.frames + payloads.length⟩] ∧
      ∀ event ∈ kept, event.IsBuffered := by
  refine ⟨_, rfl, ?_⟩
  intro event member
  obtain ⟨i, -, rfl⟩ := List.mem_map.1 member
  exact ⟨_, rfl⟩

namespace Slot

theorem events_utterance {first : UInt16} {sent : List VerifiedFrame}
    {arrived : List (VerifiedFrame × Nat)} {slot : Option Slot} {held : Pending}
    (utterance : IsUtterance first sent) (all : arrived.map Prod.fst = sent)
    (next : ∀ frame ∈ sent.head?, Continues frame.header slot held) :
    events slot arrived = joinEvents held (sent.map (·.payload)) ∧ afterAll slot arrived = none := by
  induction utterance generalizing arrived slot held with
  | last valid flag =>
    obtain ⟨⟨frame, now⟩, rest, rfl, rfl, others⟩ := List.map_eq_cons_iff.1 all
    obtain rfl := List.map_eq_nil_iff.1 others
    have pushed : Pushed frame now slot _ none := .completed valid flag (next _ rfl)
    obtain ⟨out, left⟩ := events_cons pushed []
    rw [List.map_singleton, joinEvents_singleton held frame.header.sequence]
    exact ⟨out, left⟩
  | fragment valid flag others ih =>
    rename_i rest
    obtain ⟨⟨frame, now⟩, later, rfl, rfl, there⟩ := List.map_eq_cons_iff.1 all
    have pushed : Pushed frame now slot _ (some ⟨.buffering _, now⟩) :=
      .buffered valid flag (next _ rfl)
    obtain ⟨out, left⟩ := events_cons pushed later
    have follows : ∀ frame' ∈ rest.head?, Continues frame'.header
        (some ⟨.buffering (held.extend frame.header.sequence frame.payload), now⟩)
        (held.extend frame.header.sequence frame.payload) := by
      intro frame' isHead
      obtain ⟨head, isHead', number⟩ := others.head
      obtain rfl := Option.mem_unique isHead isHead'
      exact .next number.symm
    obtain ⟨further, free⟩ := ih there follows
    have more : rest.map (·.payload) ≠ [] := mt List.map_eq_nil_iff.1 others.ne_nil
    rw [List.map_cons, joinEvents_cons held frame.header.sequence _ more, out, left, further]
    exact ⟨rfl, free⟩

theorem events_whole {first : UInt16} {sent : List VerifiedFrame}
    {arrived : List (VerifiedFrame × Nat)} (utterance : IsUtterance first sent)
    (all : arrived.map Prod.fst = sent) :
    ∃ head ∈ sent.head?, ∃ kept, events none arrived =
        kept ++ [.complete ⟨head.header, sent.flatMap (·.payload), sent.length⟩] ∧
      (∀ event ∈ kept, event.IsBuffered) ∧ afterAll none arrived = none := by
  obtain ⟨head, isHead, -⟩ := utterance.head
  have next : ∀ frame ∈ sent.head?, Continues frame.header none (.start head.header) := by
    intro frame isHead'
    obtain rfl := Option.mem_unique isHead' isHead
    exact .opens
  obtain ⟨events, free⟩ := events_utterance utterance all next
  obtain ⟨kept, joined, buffered⟩ :=
    joinEvents_eq_append (.start head.header) (sent.map (·.payload))
  refine ⟨head, isHead, kept, ?_, buffered, free⟩
  rw [events, joined, List.flatMap_def]
  simp [Pending.start]

end Slot

theorem IsUtterance.touches {first : UInt16} {sent : List VerifiedFrame}
    (h : IsUtterance first sent) : ∀ frame ∈ sent, frame.header.flag? ≠ none := by
  induction h with
  | last valid flag => simp [flag]
  | fragment valid flag others ih =>
    refine List.forall_mem_cons.2 ⟨?_, ih⟩
    rw [flag]
    exact Option.some_ne_none _

/-! ## What an encoder cuts -/

theorem joinEvents_pieces (held : Pending) {size : Nat} (positive : 0 < size) (data : Bytes) :
    joinEvents held (Encoder.pieces size data) =
      (List.range ((Encoder.pieces size data).length - 1)).map
          (fun i => .buffered (held.audio.length + (i + 1) * size)) ++
        [.complete ⟨held.header, held.audio ++ data,
          held.frames + (Encoder.pieces size data).length⟩] := by
  unfold joinEvents
  rw [Encoder.flatten_pieces]
  congr 1
  apply List.map_congr_left
  intro i below
  rw [List.mem_range] at below
  rw [List.length_append, Encoder.length_flatten_take_pieces positive data (by omega)]

/-- Cut into pieces, sent, checked and pushed in order, an utterance comes out as it was. -/
theorem fragments_reassembled (encoder : Encoder) {size : Nat} (data : Bytes)
    (fits : Frame.IsPieceSize size) :
    ∃ wires frames, (encoder.encodeFragments size data).1 = .ok wires ∧
      wires.map Frame.verify = frames.map .ok ∧
      ∃ first ∈ frames.head?, ∀ (start : Assembler) (device : String)
        (inputs : List Assembler.Input), start.slots.get? device = none →
        (Assembler.arrivals device inputs).map Prod.fst = frames →
        Assembler.InTime start.expiry.total device none inputs →
        start.eventsOf device inputs =
            (List.range (frames.length - 1)).map (fun i => .buffered ((i + 1) * size)) ++
              [.complete ⟨first.header, data, frames.length⟩] ∧
          (start.after inputs).slots.get? device = none := by
  have encoded := Encoder.encodeFragments_of_isPieceSize encoder data fits
  obtain ⟨-, frames, checked, utterance, payloads⟩ := Encoder.received_of_encodeFragments encoded
  obtain ⟨first, isFirst, -⟩ := utterance.head
  refine ⟨_, frames, encoded, checked, first, isFirst, ?_⟩
  intro start device inputs fresh pushed inTime
  have touches : ∀ arrival ∈ Assembler.arrivals device inputs,
      arrival.1.valid = true → arrival.1.header.flag? ≠ none := by
    intro arrival member _
    apply utterance.touches
    rw [← pushed]
    exact List.mem_map_of_mem member
  obtain ⟨slot, events⟩ := Assembler.seen_by_device (by simp [fresh]) inTime touches
  rw [fresh] at slot events
  have next : ∀ frame ∈ frames.head?, Slot.Continues frame.header none (.start first.header) := by
    intro frame isHead
    obtain rfl := Option.mem_unique isHead isFirst
    exact .opens
  obtain ⟨joined, free⟩ := Slot.events_utterance utterance pushed next
  have count : frames.length = (Encoder.pieces size data).length := by
    rw [← payloads, List.length_map]
  rw [slot, events, joined, free, payloads, joinEvents_pieces _ fits.1, count]
  simp [Pending.start]

/-- Three frames of a device, between them a damaged frame of another one and evictions as late as
they may be for an expiry of a second. -/
def scattered (first second third : VerifiedFrame) : List Assembler.Input :=
  [.evict 999999999999, .push "A0001" first 5, .push "B0002" { second with valid := false } 6,
    .evict 1000000005, .push "A0001" second 2, .evict 1000000002, .push "A0001" third 4, .evict 7]

theorem scattered_fragments_reassembled : ∃ wires first second third,
    (Encoder.encodeFragments { audio := {}, sequence := 65535, clock := fun _ => 7 } 2
      [1, 2, 3, 4, 5]).1 = .ok wires ∧
    wires.map Frame.verify = [.ok first, .ok second, .ok third] ∧
    (Assembler.new ⟨1, 0⟩).eventsOf "A0001" (scattered first second third) =
      [.buffered 2, .buffered 4, .complete ⟨first.header, [1, 2, 3, 4, 5], 3⟩] := by
  obtain ⟨wires, frames, encoded, checked, head, isHead, joined⟩ := fragments_reassembled
    { audio := {}, sequence := 65535, clock := fun _ => 7 } [1, 2, 3, 4, 5]
    (show Frame.IsPieceSize 2 by decide)
  have count : frames.length = 3 := by
    have same := congrArg List.length checked
    rw [List.length_map, List.length_map, Encoder.length_of_encodeFragments encoded] at same
    exact same.symm
  obtain ⟨first, second, third, rfl⟩ := List.length_eq_three.1 count
  obtain rfl := Option.some.inj isHead
  have inTime : Assembler.InTime (Duration.total ⟨1, 0⟩) "A0001" none
      (scattered first second third) := by
    simp [scattered, Assembler.InTime, Duration.total, Duration.perSecond]
  exact ⟨wires, first, second, third, encoded, checked,
    (joined (.new ⟨1, 0⟩) "A0001" (scattered first second third) rfl rfl inTime).1⟩

end VoiceBus
