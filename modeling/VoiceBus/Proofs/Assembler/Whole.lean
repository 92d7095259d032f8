import VoiceBus.Proofs.Assembler.Fates

/-! # Calls that arrive whole

All frames of a device arrive, intact and in order, whatever comes from other devices in between.
Each call then comes out, nothing is rejected, and the device is as if it had never been known.
-/

namespace VoiceBus

namespace Slot

variable {arrived : List (VerifiedFrame × Nat)}

theorem events_append (slot : Option Slot) (before after : List (VerifiedFrame × Nat)) :
    events slot (before ++ after) =
      events slot before ++ events (afterAll slot before) after := by
  induction before generalizing slot with
  | nil => rfl
  | cons arrival rest ih => exact congrArg (_ :: ·) (ih _)

/-- What becomes of calls that arrive whole at a device of which nothing is known. -/
structure Hears (arrived : List (VerifiedFrame × Nat)) (calls : List (List VerifiedFrame)) :
    Prop where
  accepted : ∀ event ∈ events none arrived, ¬ event.IsRejected
  completes : (events none arrived).filterMap AssemblyEvent.complete? =
    calls.filterMap Utterance.ofFrames?
  free : afterAll none arrived = none

theorem hears_call {call : List VerifiedFrame} (sent : IsCall call)
    (all : arrived.map Prod.fst = call) : Hears arrived [call] := by
  cases sent with
  | failed =>
    obtain rfl := List.map_eq_nil_iff.1 all
    exact ⟨by simp [events], rfl, rfl⟩
  | full valid flag =>
    obtain ⟨⟨frame, now⟩, rest, rfl, rfl, others⟩ := List.map_eq_cons_iff.1 all
    obtain rfl := List.map_eq_nil_iff.1 others
    have taken : Pushed frame now none _ none := .full valid flag
    obtain ⟨out, left⟩ := events_cons taken []
    refine ⟨?_, ?_, left⟩
    · rw [out]
      simp [events, AssemblyEvent.not_isRejected_complete]
    · rw [out]
      simp [events, AssemblyEvent.complete?, Utterance.ofFrames?]
  | stream utterance =>
    obtain ⟨head, isHead, kept, out, buffered, free⟩ := events_whole utterance all
    refine ⟨?_, ?_, free⟩
    · rw [out, List.forall_mem_append]
      refine ⟨fun event member => (buffered event member).not_isRejected, ?_⟩
      simp [AssemblyEvent.not_isRejected_complete]
    · have silent : kept.filterMap AssemblyEvent.complete? = [] := by
        rw [List.filterMap_eq_nil_iff]
        intro event member
        obtain ⟨bytes, rfl⟩ := buffered event member
        rfl
      rw [out, List.filterMap_append, silent]
      simp [AssemblyEvent.complete?, Utterance.ofFrames?, Option.mem_def.1 isHead]

theorem hears_calls {calls : List (List VerifiedFrame)} (each : ∀ call ∈ calls, IsCall call)
    (all : arrived.map Prod.fst = calls.flatten) : Hears arrived calls := by
  induction calls generalizing arrived with
  | nil =>
    obtain rfl := List.map_eq_nil_iff.1 all
    exact ⟨by simp [events], rfl, rfl⟩
  | cons call rest ih =>
    rw [List.forall_mem_cons] at each
    obtain ⟨here, there, rfl, first, others⟩ := List.map_eq_append_iff.1 all
    have now := hears_call each.1 first
    have later := ih each.2 others
    refine ⟨?_, ?_, ?_⟩
    · rw [events_append, now.free, List.forall_mem_append]
      exact ⟨now.accepted, later.accepted⟩
    · rw [events_append, now.free, List.filterMap_append, now.completes, later.completes,
        ← List.filterMap_append, List.singleton_append]
    · have parts : afterAll none (here ++ there) = afterAll (afterAll none here) there :=
        List.foldl_append
      rw [parts, now.free, later.free]

end Slot

namespace Assembler

variable {start : Assembler} {inputs : List Input}

/-- What becomes of the frames of a run, each with its device. -/
def log (start : Assembler) : List Input → List (String × AssemblyEvent)
  | [] => []
  | .push device frame now :: rest =>
    (device, (start.push device frame now).1) :: (start.push device frame now).2.log rest
  | .evict now :: rest => (start.evict now).2.log rest

def utterancesOf (device : String) (log : List (String × AssemblyEvent)) : List Utterance :=
  (log.filter (·.1 = device)).filterMap (·.2.complete?)

theorem log_append (start : Assembler) (first second : List Input) :
    start.log (first ++ second) = start.log first ++ (start.after first).log second := by
  induction first generalizing start with
  | nil => rfl
  | cons input rest ih =>
    cases input with
    | evict now => exact ih _
    | push device frame now => exact congrArg (_ :: ·) (ih _)

theorem filter_log (start : Assembler) (device : String) (inputs : List Input) :
    ((start.log inputs).filter (·.1 = device)).map Prod.snd = start.eventsOf device inputs := by
  induction inputs generalizing start with
  | nil => rfl
  | cons input rest ih =>
    cases input with
    | evict now => exact ih _
    | push other frame now =>
      rw [log, eventsOf, List.filter_cons]
      by_cases same : other = device
      · simp [same, ih]
      · simp [same, ih]

theorem hears_device {expiry : Duration} {device : String} {calls : List (List VerifiedFrame)}
    (each : ∀ call ∈ calls, IsCall call)
    (all : (arrivals device inputs).map Prod.fst = calls.flatten)
    (kept : ∀ now, .evict now ∉ inputs) :
    (∀ event, (device, event) ∈ (Assembler.new expiry).log inputs → ¬ event.IsRejected) ∧
    utterancesOf device ((Assembler.new expiry).log inputs) =
      calls.filterMap Utterance.ofFrames? ∧
    ((Assembler.new expiry).after inputs).slots.get? device = none := by
  have hears := Slot.hears_calls each all
  obtain ⟨slot, events⟩ : ((Assembler.new expiry).after inputs).slots.get? device =
        Slot.afterAll none (arrivals device inputs) ∧
      (Assembler.new expiry).eventsOf device inputs =
        Slot.events none (arrivals device inputs) := by
    apply seen_unless_evicted
    rintro k ⟨⟨now, here⟩, -⟩
    exact kept now (List.mem_of_getElem? here)
  rw [← filter_log] at events
  refine ⟨?_, ?_, slot.trans hears.free⟩
  · intro event member
    apply hears.accepted
    rw [← events]
    exact List.mem_map.2 ⟨_, List.mem_filter.2 ⟨member, decide_eq_true rfl⟩, rfl⟩
  · rw [← hears.completes, ← events, List.filterMap_map]
    rfl

end Assembler

end VoiceBus
