import VoiceBus.Proofs.Assembler.Utterance
import VoiceBus.Proofs.Encoder.Frames
import VoiceBus.Proofs.Frame.Flip
import VoiceBus.Proofs.Transport.Publishing

/-!
# Frames on the bus

A faulty end of the bus loses frames and flips bits in them. What is then in the queue stands for
the frames that were published: each is there, or damaged so that checking tells, or missing.
-/

namespace VoiceBus

/-- What messages are left of frames that were published on a topic. -/
inductive Carried (topic : Topic) : List VerifiedFrame → List Message → Prop
  | nil : Carried topic [] []
  | lost {frame : VerifiedFrame} {sent : List VerifiedFrame} {queue : List Message}
    (others : Carried topic sent queue) : Carried topic (frame :: sent) queue
  | intact {frame : VerifiedFrame} {sent : List VerifiedFrame} {payload : Bytes}
    {queue : List Message} (read : Frame.verify payload = .ok frame)
    (others : Carried topic sent queue) : Carried topic (frame :: sent) (⟨topic, payload⟩ :: queue)
  | damaged {frame other : VerifiedFrame} {sent : List VerifiedFrame} {payload : Bytes}
    {queue : List Message} (read : Frame.verify payload = .ok other) (bad : other.valid = false)
    (others : Carried topic sent queue) : Carried topic (frame :: sent) (⟨topic, payload⟩ :: queue)
  | broken {frame : VerifiedFrame} {error : FrameError} {sent : List VerifiedFrame}
    {payload : Bytes} {queue : List Message} (read : Frame.verify payload = .error error)
    (others : Carried topic sent queue) : Carried topic (frame :: sent) (⟨topic, payload⟩ :: queue)

namespace Carried

variable {topic : Topic} {sent : List VerifiedFrame} {queue : List Message}

theorem append {more : List VerifiedFrame} {after : List Message} (h : Carried topic sent queue)
    (h' : Carried topic more after) : Carried topic (sent ++ more) (queue ++ after) := by
  induction h with
  | nil => exact h'
  | lost others ih => exact .lost ih
  | intact read others ih => exact .intact read ih
  | damaged read bad others ih => exact .damaged read bad ih
  | broken read others ih => exact .broken read ih

theorem pop {message : Message} (h : Carried topic sent (message :: queue)) :
    message.topic = topic ∧ ∃ rest, Carried topic rest queue ∧
      (∀ frame, Frame.verify message.payload = .ok frame → ∀ later arrived now,
        Delivered (rest ++ later) arrived → Delivered (sent ++ later) ((frame, now) :: arrived)) ∧
      (∀ error, Frame.verify message.payload = .error error → ∀ later arrived,
        Delivered (rest ++ later) arrived → Delivered (sent ++ later) arrived) := by
  -- frames that were lost in front of the message are gone with it
  generalize whole : message :: queue = messages at h
  induction h with
  | nil => cases whole
  | lost others ih =>
    obtain ⟨same, rest, carried, ok, error⟩ := ih whole
    refine ⟨same, rest, carried, ?_, ?_⟩
    · intro frame read later arrived now delivered
      exact .lost (ok frame read later arrived now delivered)
    · intro problem read later arrived delivered
      exact .lost (error problem read later arrived delivered)
  | intact read others =>
    cases whole
    refine ⟨rfl, _, others, ?_, ?_⟩
    · intro frame again later arrived now delivered
      rw [read] at again
      cases again
      exact .intact now delivered
    · intro problem again
      rw [read] at again
      cases again
  | damaged read bad others =>
    cases whole
    refine ⟨rfl, _, others, ?_, ?_⟩
    · intro frame again later arrived now delivered
      rw [read] at again
      cases again
      exact .damaged now bad delivered
    · intro problem again
      rw [read] at again
      cases again
  | broken read others =>
    cases whole
    refine ⟨rfl, _, others, ?_, ?_⟩
    · intro frame again
      rw [read] at again
      cases again
    · intro problem again later arrived delivered
      exact .lost delivered

end Carried

/-! ## One frame through a faulty end -/

/-- No frame has a bit of its announced length cleared on the way. -/
def Chance.Spares (profile : FaultProfile) : Chance → List Frame → Prop
  | _, [] => True
  | chance, frame :: rest =>
    (profile.drops chance.draw.1.loss = false →
      profile.corrupts chance.draw.1.corruption = true →
      Frame.SparesLength frame.encode (chance.draw.1.bit % (8 * frame.encode.length))) ∧
    chance.draw.2.Spares profile rest

instance Chance.decidableSpares (profile : FaultProfile) :
    (chance : Chance) → (frames : List Frame) → Decidable (chance.Spares profile frames)
  | _, [] => isTrue trivial
  | chance, _ :: rest =>
    have := decidableSpares profile chance.draw.2 rest
    inferInstanceAs (Decidable (_ ∧ _))

def Chance.skip (chance : Chance) (count : Nat) : Chance :=
  { chance with taken := chance.taken + count }

theorem Chance.spares_append {profile : FaultProfile} {chance : Chance} {first second : List Frame} :
    chance.Spares profile (first ++ second) ↔
      chance.Spares profile first ∧ (chance.skip first.length).Spares profile second := by
  induction first generalizing chance with
  | nil => simp [Spares, skip]
  | cons frame rest ih =>
    have moved : chance.draw.2.skip rest.length = chance.skip (rest.length + 1) := by
      simp only [draw, skip, Nat.add_assoc, Nat.add_comm 1]
    rw [List.cons_append, Spares, Spares, ih, moved, and_assoc]
    rfl

variable {topic : Topic} {profile : FaultProfile}

theorem length_encode_of_verify {frame : Frame}
    (checked : Frame.verify frame.encode = .ok frame.received) :
    frame.encode.length = Header.size + (Frame.lengthField frame.encode).toNat := by
  obtain ⟨-, length, -⟩ := Frame.verify_eq_ok_iff.1 checked
  have announced : Frame.lengthField frame.encode = frame.header.payloadLength :=
    Frame.lengthField_encode frame.header frame.payload
  have fits : frame.header.payloadLength.toNat = frame.payload.length := length
  rw [announced, fits, Frame.length_encode]
  rfl

theorem carried_flipPicked {frame : Frame} {pick : Nat}
    (checked : Frame.verify frame.encode = .ok frame.received)
    (spared : Frame.SparesLength frame.encode (pick % (8 * frame.encode.length))) :
    Carried topic [frame.received] [⟨topic, flipPicked pick frame.encode⟩] := by
  have exact := length_encode_of_verify checked
  have inside : pick % (8 * frame.encode.length) < 8 * frame.encode.length := by
    apply Nat.mod_lt
    rw [exact, Header.size]
    omega
  rcases Frame.verify_flipBit_spared checked rfl exact inside spared with
    ⟨other, read, bad⟩ | ⟨error, read⟩
  · exact .damaged read bad .nil
  · exact .broken read .nil

/-- A faulty end of the bus after frames went through it. -/
structure Outlet.Took (topic : Topic) (profile : FaultProfile) (frames : List Frame)
    (before after : Outlet) : Prop where
  sink : after.sink = .faulty .channel profile
  chance : after.chance = before.chance.skip frames.length
  queue : ∃ messages, after.bus.queue.toList = before.bus.queue.toList ++ messages ∧
    Carried topic (frames.map Frame.received) messages

variable {outlet middle after : Outlet}

theorem Outlet.Took.nil (sink : outlet.sink = .faulty .channel profile) :
    outlet.Took topic profile [] outlet where
  sink := sink
  chance := rfl
  queue := ⟨[], (List.append_nil _).symm, .nil⟩

theorem Outlet.Took.append {first second : List Frame} (h : outlet.Took topic profile first middle)
    (h' : middle.Took topic profile second after) :
    outlet.Took topic profile (first ++ second) after := by
  obtain ⟨messages, grown, carried⟩ := h.queue
  obtain ⟨more, grown', carried'⟩ := h'.queue
  refine ⟨h'.sink, ?_, messages ++ more, ?_, ?_⟩
  · rw [h'.chance, h.chance, List.length_append]
    simp only [Chance.skip, Nat.add_assoc]
  · rw [grown', grown, List.append_assoc]
  · rw [List.map_append]
    exact carried.append carried'

theorem Outlet.took_of_accepted {frame : Frame} {attempt : Attempt}
    (sink : outlet.sink = .faulty .channel profile)
    (checked : Frame.verify frame.encode = .ok frame.received)
    (spared : outlet.chance.Spares profile [frame])
    (published : outlet.publish ⟨topic, frame.encode⟩ = (attempt, after))
    (accepted : attempt.outcome = .accepted) : outlet.Took topic profile [frame] after := by
  unfold Outlet.publish at published
  rw [sink, Sink.publish] at published
  dsimp only at published
  split at published
  · obtain ⟨rfl, rfl⟩ := Prod.mk.inj published
    exact ⟨rfl, rfl, [], (List.append_nil _).symm, .lost .nil⟩
  · rename_i kept
    rw [Bool.not_eq_true] at kept
    have carried : Carried topic [frame.received] [⟨topic,
        if profile.corrupts outlet.chance.draw.1.corruption then
          flipPicked outlet.chance.draw.1.bit frame.encode else frame.encode⟩] := by
      split
      · rename_i corrupt
        exact carried_flipPicked checked (spared.1 kept corrupt)
      · exact .intact checked .nil
    obtain ⟨rfl, rfl⟩ := Prod.mk.inj published
    have queued := Bus.publish_accepted (Prod.ext accepted rfl)
    have grown := congrArg (fun bus => bus.queue.toList) queued
    rw [Queue.toList_push] at grown
    exact ⟨rfl, rfl, _, grown, carried⟩

theorem Outlet.took_of_accepts {frames : List Frame}
    (sink : outlet.sink = .faulty .channel profile)
    (checked : ∀ frame ∈ frames, Frame.verify frame.encode = .ok frame.received)
    (spared : outlet.chance.Spares profile frames)
    (accepted : Sender.Accepts Outlet.publish topic frames outlet after) :
    outlet.Took topic profile frames after := by
  induction accepted with
  | nil => exact .nil sink
  | cons published others ih =>
    rw [List.forall_mem_cons] at checked
    rw [← List.singleton_append, Chance.spares_append] at spared
    have first := took_of_accepted sink checked.1 spared.1 published rfl
    have spared' := spared.2
    rw [← first.chance] at spared'
    exact first.append (ih first.sink checked.2 spared')

end VoiceBus
