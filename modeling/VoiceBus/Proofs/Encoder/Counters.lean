import VoiceBus.Proofs.Encoder.Requests

/-!
# The counters of an encoder over a run

The number of the next frame moves on by one with every frame that is given, the readings of the
clock by one with every frame that is given or is too large.
-/

namespace VoiceBus.Encoder

variable {encoder next : Encoder} {request : Request} {answer : Answer}

/-! ## One request -/

theorem fault?_of_setting? {value : UInt16} (setting : request.setting? = some value) :
    request.fault? = none := by
  cases request <;> simp_all [Request.setting?, Request.fault?]

theorem flags_of_setting? {value : UInt16} (setting : request.setting? = some value) :
    request.flags = [] := by
  cases request <;> simp_all [Request.setting?, Request.flags]

theorem setting?_of_fault? {error : FrameError} (fault : request.fault? = some error) :
    request.setting? = none := by
  cases request <;> simp_all [Request.setting?, Request.fault?]

theorem isTooLarge_eq_false (given : ∀ error, answer ≠ .failed error) :
    answer.isTooLarge = false := by
  cases answer with
  | failed error => exact absurd rfl (given error)
  | frame _ | wires _ | done => rfl

theorem length_of_checked {frames : List VerifiedFrame}
    (checked : answer.bytes.map Frame.verify = frames.map .ok) :
    answer.bytes.length = frames.length := by
  simpa using congrArg List.length checked

namespace Answered

theorem stream (h : Answered encoder request answer next) :
    next.audio = encoder.audio ∧ next.clock = encoder.clock := by
  cases h <;> exact ⟨rfl, rfl⟩

theorem failed_iff (h : Answered encoder request answer next) (error : FrameError) :
    answer = .failed error ↔ request.fault? = some error := by
  cases h with
  | set setting => simp [fault?_of_setting? setting]
  | made setting fault made => simp [fault, made.given]
  | tooLarge fault => simp [fault]
  | badSize fault => simp [fault]

theorem frames (h : Answered encoder request answer next) :
    ∃ frames : List VerifiedFrame,
      answer.bytes.map Frame.verify = frames.map .ok ∧ encoder.Carries frames ∧
      (request.fault? = none → frames.map (·.header.flag?) = request.flags.map some) ∧
      ∀ frame, answer = .frame frame → frames = [frame.received] := by
  cases h with
  | set setting => exact ⟨[], rfl, carries_nil _, by simp [flags_of_setting? setting], by simp⟩
  | made setting fault made =>
    exact ⟨_, made.checked, made.carries, fun _ => made.flags, made.whole⟩
  | tooLarge fault => exact ⟨[], rfl, carries_nil _, by simp [fault], by simp⟩
  | badSize fault => exact ⟨[], rfl, carries_nil _, by simp [fault], by simp⟩

theorem length_bytes (h : Answered encoder request answer next)
    (fault : request.fault? = none) : answer.bytes.length = request.flags.length := by
  obtain ⟨frames, checked, -, flags, -⟩ := h.frames
  rw [length_of_checked checked]
  simpa using congrArg List.length (flags fault)

theorem sequence (h : Answered encoder request answer next) :
    next.sequence =
      request.setting?.getD (encoder.sequence + UInt16.ofNat answer.bytes.length) := by
  cases h with
  | set setting => simp [setting, withSequence]
  | made setting fault made => simp [setting, advance, length_of_checked made.checked]
  | tooLarge fault => simp [setting?_of_fault? fault, Answer.bytes]
  | badSize fault => simp [setting?_of_fault? fault, Answer.bytes]

theorem readings (h : Answered encoder request answer next) :
    next.readings =
      encoder.readings + answer.bytes.length + if answer.isTooLarge then 1 else 0 := by
  cases h with
  | set setting => rfl
  | made setting fault made =>
    rw [isTooLarge_eq_false made.given, length_of_checked made.checked]
    rfl
  | tooLarge fault => rfl
  | badSize fault => rfl

end Answered

/-! ## Runs -/

theorem after_cons (encoder : Encoder) (request : Request) (rest : List Request) :
    encoder.after (request :: rest) = (encoder.perform request).2.after rest := rfl

theorem after_append (encoder : Encoder) (first second : List Request) :
    encoder.after (first ++ second) = (encoder.after first).after second :=
  List.foldl_append

theorem bytes_cons (encoder : Encoder) (request : Request) (rest : List Request) :
    encoder.bytes (request :: rest) =
      (encoder.perform request).1.bytes ++ (encoder.perform request).2.bytes rest := rfl

theorem stream_after (encoder : Encoder) (requests : List Request) :
    (encoder.after requests).audio = encoder.audio ∧
      (encoder.after requests).clock = encoder.clock := by
  induction requests generalizing encoder with
  | nil => exact ⟨rfl, rfl⟩
  | cons request rest ih =>
    obtain ⟨audio, clock⟩ := (answered encoder request).stream
    obtain ⟨audio', clock'⟩ := ih (encoder.perform request).2
    exact ⟨audio'.trans audio, clock'.trans clock⟩

theorem readings_after (encoder : Encoder) (requests : List Request) :
    (encoder.after requests).readings = encoder.readings + (encoder.bytes requests).length +
      (encoder.answers requests).countP Answer.isTooLarge := by
  induction requests generalizing encoder with
  | nil => rfl
  | cons request rest ih =>
    rw [after_cons, ih, (answered encoder request).readings, bytes_cons, List.length_append,
      answers, List.countP_cons]
    omega

theorem numbers_after (encoder : Encoder) {requests : List Request}
    (counting : ∀ request ∈ requests, request.setting? = none) :
    ∃ frames : List VerifiedFrame, (encoder.bytes requests).map Frame.verify = frames.map .ok ∧
      frames.map (·.header.sequence) = numbersFrom encoder.sequence frames.length ∧
      (encoder.after requests).sequence = encoder.sequence + UInt16.ofNat frames.length := by
  induction requests generalizing encoder with
  | nil => exact ⟨[], rfl, rfl, by simp [after]⟩
  | cons request rest ih =>
    rw [List.forall_mem_cons] at counting
    have here := answered encoder request
    obtain ⟨first, checked, carries, -⟩ := here.frames
    obtain ⟨later, checked', numbers, sequence⟩ := ih (encoder.perform request).2 counting.2
    have moved := here.sequence
    rw [counting.1, Option.getD_none, length_of_checked checked] at moved
    refine ⟨first ++ later, ?_, ?_, ?_⟩
    · rw [bytes_cons, List.map_append, List.map_append, checked, checked']
    · rw [List.map_append, carries.numbers, numbers, moved, List.length_append, numbersFrom_add]
    · rw [after_cons, sequence, moved, List.length_append, UInt16.ofNat_add, UInt16.add_assoc]

/-- Frames are numbered one after the other, and each carries the reading taken for it. -/
theorem numbered_and_stamped (start : Encoder) (before : List Request) :
    (∀ between, (∀ request ∈ between, request.setting? = none) → ∃ frames : List VerifiedFrame,
      ((start.after before).bytes between).map Frame.verify = frames.map .ok ∧
      frames.map (·.header.sequence) =
        numbersFrom (start.after before).sequence frames.length ∧
      (start.after (before ++ between)).sequence =
        (start.after before).sequence + UInt16.ofNat frames.length) ∧
    (start.after before).readings = start.readings + (start.bytes before).length +
      (start.answers before).countP Answer.isTooLarge ∧
    ∀ request answer next, (start.after before).perform request = (answer, next) →
      (∀ value, request.setting? = some value → next.sequence = value) ∧
      (∀ error, answer = .failed error ↔ request.fault? = some error) ∧
      (∀ error, answer = .failed error →
        answer.bytes = [] ∧ next.sequence = (start.after before).sequence) ∧
      (∀ size, answer = .failed (.invalidFragmentSize size) →
        next.readings = (start.after before).readings) ∧
      ∃ frames : List VerifiedFrame, answer.bytes.map Frame.verify = frames.map .ok ∧
        (∀ frame, answer = .frame frame → frames = [frame.received]) ∧
        frames.map (·.header.timestamp) = (List.range frames.length).map
          (fun i => start.clock ((start.after before).readings + i)) ∧
        (request.fault? = none → frames.map (·.header.flag?) = request.flags.map some) ∧
        ∀ frame ∈ frames, frame.valid = true ∧ frame.header.version = 1 ∧
          frame.header.audioFormat? = some start.audio.format ∧
          frame.header.sampleRate = start.audio.sampleRate ∧
          frame.header.channelCount = start.audio.channels % 4 := by
  refine ⟨?_, readings_after start before, ?_⟩
  · intro between counting
    rw [after_append]
    exact numbers_after (start.after before) counting
  · intro request answer next performed
    have here := answered (start.after before) request
    rw [performed] at here
    have sequence := here.sequence
    have readings := here.readings
    refine ⟨?_, here.failed_iff, ?_, ?_, ?_⟩
    · intro value setting
      rw [sequence, setting, Option.getD_some]
    · rintro error rfl
      rw [setting?_of_fault? ((here.failed_iff error).1 rfl)] at sequence
      exact ⟨rfl, sequence.trans (UInt16.add_zero _)⟩
    · rintro size rfl
      exact readings
    · obtain ⟨frames, checked, carries, flags, whole⟩ := here.frames
      have fields := carries.fields
      have stamps := carries.stamps
      rw [(stream_after start before).1] at fields
      rw [(stream_after start before).2] at stamps
      exact ⟨frames, checked, whole, stamps, flags, fields⟩

/-- An encoder with more channels than a frame can say, and a clock that wraps. -/
def stereoPlus : Encoder :=
  { audio := { channels := 6 }, sequence := 7, clock := fun n => UInt16.ofNat (65533 + n) }

/-- Payloads of one frame, of two and of none at all, across the end of the numbers. -/
def threeRequests : List Request := [.frame .full [9], .fragments 2 [1, 2, 3], .piece true []]

theorem stereoPlus_counts :
    (∀ request ∈ threeRequests, request.setting? = none) ∧
    ∃ frames : List VerifiedFrame,
      ((stereoPlus.after [.full (List.replicate 65536 0), .withSequence 65535]).bytes
        threeRequests).map Frame.verify = frames.map .ok ∧
      frames.map (·.header.sequence) = [65535, 0, 1, 2] ∧
      (stereoPlus.after ([.full (List.replicate 65536 0), .withSequence 65535] ++
        threeRequests)).sequence = 3 := by
  have counting : ∀ request ∈ threeRequests, request.setting? = none := by decide
  obtain ⟨frames, checked, numbers, next⟩ := (numbered_and_stamped stereoPlus
    [.full (List.replicate 65536 0), .withSequence 65535]).1 threeRequests counting
  have count := congrArg List.length checked
  rw [List.length_map, List.length_map, threeRequests, bytes_cons, bytes_cons, bytes_cons,
    List.length_append, List.length_append, List.length_append,
    (answered _ _).length_bytes (by decide), (answered _ _).length_bytes (by decide),
    (answered _ _).length_bytes (by decide)] at count
  rw [← count] at numbers next
  exact ⟨counting, frames, checked, numbers, next⟩

end VoiceBus.Encoder
