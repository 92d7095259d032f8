import VoiceBus.Proofs.Assembler.Utterance

/-! # What a slot makes of what arrives

Three slots can meet an utterance: one that is spoiled, one that holds its beginning, and one that
holds nothing. For each, the utterances that come out and the slot that is left.
-/

namespace VoiceBus

theorem Utterance.ofFrames?_singleton (frame : VerifiedFrame) :
    Utterance.ofFrames? [frame] =
      some ((Pending.start frame.header).extend frame.header.sequence frame.payload).toUtterance := by
  simp [ofFrames?, Pending.start, Pending.extend, Pending.toUtterance]

theorem Utterance.ofFrames?_concat {got : List VerifiedFrame} {pending : Pending}
    (h : Utterance.ofFrames? got = some pending.toUtterance) (frame : VerifiedFrame) :
    Utterance.ofFrames? (got ++ [frame]) =
      some (pending.extend frame.header.sequence frame.payload).toUtterance := by
  cases got with
  | nil => cases h
  | cons first rest =>
    simp only [ofFrames?, List.head?_cons, Option.map_some, Option.some.injEq,
      Pending.toUtterance, Utterance.mk.injEq] at h
    simp [ofFrames?, Pending.toUtterance, Pending.extend, ← h.1, ← h.2.1, ← h.2.2]

namespace Slot

variable {slot after : Option Slot} {later : List UInt16} {first : UInt16} {frame : VerifiedFrame}
  {sent : List VerifiedFrame} {arrived : List (VerifiedFrame × Nat)} {now : Nat}

/-! ## Rejecting -/

theorem events_cons {event : AssemblyEvent} (h : Pushed frame now slot event after)
    (rest : List (VerifiedFrame × Nat)) :
    events slot ((frame, now) :: rest) = event :: events after rest ∧
      afterAll slot ((frame, now) :: rest) = afterAll after rest := by
  rw [events, afterAll_cons, h.eq_push]
  exact ⟨rfl, rfl⟩

theorem completed_eq_filterMap (slot : Option Slot) (arrived : List (VerifiedFrame × Nat)) :
    completed slot arrived = (events slot arrived).filterMap AssemblyEvent.complete? := by
  induction arrived generalizing slot with
  | nil => rfl
  | cons arrival rest ih =>
    obtain ⟨frame, now⟩ := arrival
    rw [events, filterMap_cons_toList, ← ih]
    rfl

/-- A slot rejects all that arrives, and is then between two utterances. -/
structure Rejects (later : List UInt16) (slot : Option Slot)
    (arrived : List (VerifiedFrame × Nat)) : Prop where
  rejected : ∀ event ∈ events slot arrived, event.IsRejected
  settled : Settled later (afterAll slot arrived)

namespace Rejects

theorem nil (settled : Settled later slot) : Rejects later slot [] := ⟨by simp [events], settled⟩

theorem cons {reason : RejectReason} (h : Pushed frame now slot (.rejected reason) after)
    (rest : Rejects later after arrived) : Rejects later slot ((frame, now) :: arrived) := by
  obtain ⟨out, left⟩ := events_cons h arrived
  refine ⟨?_, ?_⟩
  · rw [out, List.forall_mem_cons]
    exact ⟨⟨reason, rfl⟩, rest.rejected⟩
  · rw [left]
    exact rest.settled

theorem completed (h : Rejects later slot arrived) : completed slot arrived = [] := by
  rw [completed_eq_filterMap, List.filterMap_eq_nil_iff]
  intro event member
  obtain ⟨reason, rfl⟩ := h.rejected event member
  rfl

end Rejects

/-! ## Giving out -/

/-- A slot gives out these utterances, and is then between two utterances. -/
structure Gives (later : List UInt16) (slot : Option Slot) (arrived : List (VerifiedFrame × Nat))
    (utterances : List Utterance) : Prop where
  completed : completed slot arrived = utterances
  settled : Settled later (afterAll slot arrived)

theorem completed_cons {event : AssemblyEvent} (h : Pushed frame now slot event after)
    (rest : List (VerifiedFrame × Nat)) :
    completed slot ((frame, now) :: rest) = event.complete?.toList ++ completed after rest ∧
      afterAll slot ((frame, now) :: rest) = afterAll after rest := by
  have out : completed slot ((frame, now) :: rest) =
      (push slot frame now).1.complete?.toList ++ completed (push slot frame now).2 rest := rfl
  rw [out, afterAll_cons, h.eq_push]
  exact ⟨rfl, rfl⟩

namespace Gives

variable {utterances : List Utterance}

theorem nil (settled : Settled later slot) : Gives later slot [] [] := ⟨rfl, settled⟩

theorem silent {event : AssemblyEvent} (h : Pushed frame now slot event after)
    (rest : Gives later after arrived utterances) (nothing : event.complete? = none := by rfl) :
    Gives later slot ((frame, now) :: arrived) utterances := by
  obtain ⟨out, left⟩ := completed_cons h arrived
  rw [nothing] at out
  refine ⟨?_, ?_⟩
  · rw [out, rest.completed]
    rfl
  · rw [left]
    exact rest.settled

theorem complete {utterance : Utterance} (h : Pushed frame now slot (.complete utterance) after)
    (rest : Gives later after arrived utterances) :
    Gives later slot ((frame, now) :: arrived) (utterance :: utterances) := by
  obtain ⟨out, left⟩ := completed_cons h arrived
  refine ⟨?_, ?_⟩
  · rw [out, rest.completed]
    rfl
  · rw [left]
    exact rest.settled

end Gives

/-! ## A spoiled slot -/

namespace Spoiled

theorem tail {number : UInt16} (h : Spoiled (number :: later) slot) : Spoiled later slot := by
  cases h with
  | discarding since => exact .discarding since
  | stale since waits => exact .stale since fun member => waits (List.mem_cons_of_mem _ member)

theorem pushed_fragment (h : Spoiled (frame.header.sequence :: later) slot) (now : Nat)
    (valid : frame.valid = true) (flag : frame.header.flag? = some .fragment) :
    ∃ reason, Pushed frame now slot (.rejected reason) (some ⟨.discarding, now⟩) := by
  cases h with
  | discarding since => exact ⟨_, .resyncing valid flag⟩
  | stale since waits =>
    refine ⟨_, .gapFragment valid flag ?_⟩
    intro same
    exact waits (List.mem_cons.2 (Or.inl same))

theorem pushed_last (h : Spoiled (frame.header.sequence :: later) slot) (now : Nat)
    (valid : frame.valid = true) (flag : frame.header.flag? = some .last) :
    ∃ reason, Pushed frame now slot (.rejected reason) none := by
  cases h with
  | discarding since => exact ⟨_, .resynced valid flag⟩
  | stale since waits =>
    refine ⟨_, .gapLast valid flag ?_⟩
    intro same
    exact waits (List.mem_cons.2 (Or.inl same))

theorem rejects (utterance : IsUtterance first sent) (delivered : Delivered sent arrived)
    (h : Spoiled (sent.map (·.header.sequence) ++ later) slot) : Rejects later slot arrived := by
  induction utterance generalizing arrived slot with
  | last valid flag =>
    cases delivered with
    | intact now others =>
      cases others
      obtain ⟨reason, pushed⟩ := pushed_last h now valid flag
      exact .cons pushed (.nil (Or.inl rfl))
    | lost others =>
      cases others
      exact .nil (Or.inr h.tail)
    | damaged now bad others =>
      cases others
      exact .cons (.corrupted bad) (.nil (Or.inr (.discarding now)))
  | fragment valid flag others ih =>
    cases delivered with
    | intact now rest =>
      obtain ⟨reason, pushed⟩ := pushed_fragment h now valid flag
      exact .cons pushed (ih rest (.discarding now))
    | lost rest => exact ih rest h.tail
    | damaged now bad rest => exact .cons (.corrupted bad) (ih rest (.discarding now))

theorem gives (utterance : IsUtterance first sent) (delivered : Delivered sent arrived)
    (h : Spoiled (sent.map (·.header.sequence) ++ later) slot) : Gives later slot arrived [] :=
  ⟨(rejects utterance delivered h).completed, (rejects utterance delivered h).settled⟩

end Spoiled

/-! ## A slot that holds the beginning -/

theorem not_suffix_of_damaged {others : List VerifiedFrame}
    (valid : ∀ frame ∈ sent, frame.valid = true) (bad : frame.valid = false) :
    ¬ frame :: others <:+ sent := by
  intro suffix
  have intact := valid frame (suffix.subset (List.mem_cons_self ..))
  rw [bad] at intact
  cases intact

theorem ne_of_damaged {others : List VerifiedFrame} (valid : ∀ frame ∈ sent, frame.valid = true)
    (bad : frame.valid = false) : frame :: others ≠ sent := by
  rintro rfl
  exact not_suffix_of_damaged valid bad List.suffix_rfl

theorem joining_gives {pending : Pending} {got : List VerifiedFrame} (since : Nat)
    (utterance : IsUtterance first sent) (delivered : Delivered sent arrived)
    (next : pending.nextSequence = first)
    (holds : Utterance.ofFrames? got = some pending.toUtterance)
    (distinct : (sent.map (·.header.sequence) ++ later).Nodup) :
    Gives later (some ⟨.buffering pending, since⟩) arrived
      (if arrived.map Prod.fst = sent then (Utterance.ofFrames? (got ++ sent)).toList else []) := by
  have intact := utterance.valid
  -- what was joined so far grows with every fragment that arrives, so got is general
  induction utterance generalizing arrived pending got since with
  | last valid flag =>
    rename_i frame
    cases delivered with
    | intact now others =>
      cases others
      have all : [(frame, now)].map Prod.fst = [frame] := rfl
      rw [all, if_pos rfl, Utterance.ofFrames?_concat holds frame]
      exact .complete (.completed valid flag (.next next)) (.nil (Or.inl rfl))
    | lost others =>
      cases others
      refine .nil (Or.inr (.stale since ?_))
      rw [next]
      exact (List.nodup_cons.1 distinct).1
    | damaged now bad others =>
      cases others
      rw [List.map_cons, if_neg (ne_of_damaged intact bad)]
      exact .silent (.corrupted bad) (.nil (Or.inr (.discarding now)))
  | fragment valid flag others ih =>
    rename_i frame rest
    cases delivered with
    | intact now arrivals =>
      have joined := Utterance.ofFrames?_concat holds frame
      have further := ih now arrivals rfl joined (List.nodup_cons.1 distinct).2 others.valid
      rw [List.append_assoc] at further
      simp only [List.map_cons, List.cons.injEq, true_and]
      exact .silent (.buffered valid flag (.next next)) further
    | lost arrivals =>
      -- the slot waits for the lost number, which does not come again
      have waits : pending.nextSequence ∉ rest.map (·.header.sequence) ++ later := by
        rw [next]
        exact (List.nodup_cons.1 distinct).1
      rw [if_neg]
      · exact Spoiled.gives others arrivals (.stale since waits)
      · intro all
        have fewer := arrivals.length_le
        have same := congrArg List.length all
        simp only [List.length_map, List.length_cons] at same
        omega
    | damaged now bad arrivals =>
      rw [List.map_cons, if_neg (ne_of_damaged intact bad)]
      exact .silent (.corrupted bad) (Spoiled.gives others arrivals (.discarding now))

/-! ## A slot that holds nothing -/

theorem cons_suffix_cons_of_notMem {got rest : List VerifiedFrame} (fresh : frame ∉ rest) :
    frame :: got <:+ frame :: rest ↔ got = rest := by
  rw [List.suffix_cons_iff, List.cons.injEq]
  constructor
  · rintro (⟨-, all⟩ | suffix)
    · exact all
    · exact absurd (suffix.subset (List.mem_cons_self ..)) fresh
  · intro all
    exact Or.inl ⟨rfl, all⟩

theorem suffix_cons_of_length_le {got rest : List VerifiedFrame} (frame : VerifiedFrame)
    (fewer : got.length ≤ rest.length) : got <:+ frame :: rest ↔ got <:+ rest := by
  rw [List.suffix_cons_iff]
  constructor
  · rintro (all | suffix)
    · have same := congrArg List.length all
      rw [List.length_cons] at same
      omega
    · exact suffix
  · exact Or.inr

theorem idle_gives (utterance : IsUtterance first sent) (delivered : Delivered sent arrived)
    (distinct : (sent.map (·.header.sequence) ++ later).Nodup) :
    Gives later none arrived (if arrived.map Prod.fst <:+ sent then
      (Utterance.ofFrames? (arrived.map Prod.fst)).toList else []) := by
  have intact := utterance.valid
  induction utterance generalizing arrived with
  | last valid flag =>
    rename_i frame
    cases delivered with
    | intact now others =>
      cases others
      have all : [(frame, now)].map Prod.fst = [frame] := rfl
      rw [all, if_pos List.suffix_rfl, Utterance.ofFrames?_singleton]
      exact .complete (.completed valid flag .opens) (.nil (Or.inl rfl))
    | lost others =>
      cases others
      exact .nil (Or.inl rfl)
    | damaged now bad others =>
      cases others
      rw [List.map_cons, if_neg (not_suffix_of_damaged intact bad)]
      exact .silent (.corrupted bad) (.nil (Or.inr (.discarding now)))
  | fragment valid flag others ih =>
    rename_i frame rest
    cases delivered with
    | intact now arrivals =>
      have fresh : frame ∉ rest := by
        intro member
        apply (List.nodup_cons.1 distinct).1
        exact List.mem_append_left _ (List.mem_map.2 ⟨frame, member, rfl⟩)
      have joined := joining_gives now others arrivals rfl (Utterance.ofFrames?_singleton frame)
        (List.nodup_cons.1 distinct).2
      rw [List.map_cons]
      simp only [cons_suffix_cons_of_notMem fresh]
      split
      · rename_i all
        rw [if_pos all] at joined
        rw [all]
        exact .silent (.buffered valid flag .opens) joined
      · rename_i partly
        rw [if_neg partly] at joined
        exact .silent (.buffered valid flag .opens) joined
    | lost arrivals =>
      -- nothing tells that the first frame is missing: the next one opens the utterance
      have fewer := arrivals.length_le
      rw [← List.length_map Prod.fst] at fewer
      simp only [suffix_cons_of_length_le frame fewer]
      exact ih arrivals (List.nodup_cons.1 distinct).2 others.valid
    | damaged now bad arrivals =>
      rw [List.map_cons, if_neg (not_suffix_of_damaged intact bad)]
      exact .silent (.corrupted bad) (Spoiled.gives others arrivals (.discarding now))

end Slot

end VoiceBus
