import VoiceBus.Transport.Sender

/-!
# Publishing in order

The frames of a call are published one after the other, and the first that is not accepted ends the
call. What follows about calls is read off the three ways in which this can go.
-/

namespace VoiceBus.Sender

variable {σ : Type} {publish : Publisher σ} {before middle after : σ}

/-- The transport accepts the frames one after the other. -/
inductive Accepts (publish : Publisher σ) (topic : Topic) : List Frame → σ → σ → Prop
  | nil (transport : σ) : Accepts publish topic [] transport transport
  | cons {frame : Frame} {rest : List Frame} {notices : List Notice} {before middle after : σ} :
    publish ⟨topic, frame.encode⟩ before = (⟨.accepted, notices⟩, middle) →
    Accepts publish topic rest middle after → Accepts publish topic (frame :: rest) before after

/-- Frames are published in order: all of them, which gives the value, or up to the first that the
transport does not accept. -/
inductive Publishes {α : Type} (publish : Publisher σ) (topic : Topic) (frames : List Frame)
    (value : α) (before : σ) : SendResult α → σ → Prop
  | all {after : σ} :
    Accepts publish topic frames before after →
    Publishes publish topic frames value before (.sent value) after
  | failed {done rest : List Frame} {frame : Frame} {middle after : σ} {error : TransportError}
    {notices : List Notice} :
    frames = done ++ frame :: rest → Accepts publish topic done before middle →
    publish ⟨topic, frame.encode⟩ middle = (⟨.failed error, notices⟩, after) →
    Publishes publish topic frames value before (.failed (.transport error)) after
  | blocked {done rest : List Frame} {frame : Frame} {middle after : σ} {notices : List Notice} :
    frames = done ++ frame :: rest → Accepts publish topic done before middle →
    publish ⟨topic, frame.encode⟩ middle = (⟨.blocked, notices⟩, after) →
    Publishes publish topic frames value before .blocked after

variable {α : Type} {topic : Topic} {frames : List Frame} {value : α}

theorem Publishes.cons {frame : Frame} {notices : List Notice} {result : SendResult α}
    (first : publish ⟨topic, frame.encode⟩ before = (⟨.accepted, notices⟩, middle))
    (others : Publishes publish topic frames value middle result after) :
    Publishes publish topic (frame :: frames) value before result after := by
  cases others with
  | all accepted => exact .all (.cons first accepted)
  | failed parts accepted refused => exact .failed (congrArg _ parts) (.cons first accepted) refused
  | blocked parts accepted refused =>
    exact .blocked (congrArg _ parts) (.cons first accepted) refused

theorem publishes_publishAll {result : SendResult Unit} {notices : List Notice}
    (done : publishAll publish topic frames before = (result, notices, after)) :
    Publishes publish topic frames () before result after := by
  -- the first frame ends the call or is put in front of what becomes of the others
  induction frames generalizing before notices with
  | nil =>
    cases done
    exact .all (.nil _)
  | cons frame rest ih =>
    unfold publishAll at done
    dsimp only at done
    rcases published : publish ⟨topic, frame.encode⟩ before with ⟨⟨outcome, notes⟩, middle⟩
    rw [published] at done
    cases outcome with
    | accepted =>
      dsimp only at done
      rcases others : publishAll publish topic rest middle with ⟨result', more, last⟩
      rw [others] at done
      cases done
      exact (ih others).cons published
    | failed error =>
      cases done
      exact .failed (List.nil_append _).symm (.nil _) published
    | blocked =>
      cases done
      exact .blocked (List.nil_append _).symm (.nil _) published

/-! ### What it comes to -/

theorem Publishes.transport {result : SendResult α} {error : Error}
    (h : Publishes publish topic frames value before result after)
    (failed : result = .failed error) : ∃ failure, error = .transport failure := by
  cases h with
  | all accepted => cases failed
  | failed parts accepted refused =>
    cases failed
    exact ⟨_, rfl⟩
  | blocked parts accepted refused => cases failed

theorem accepts_append {first second : List Frame} :
    Accepts publish topic (first ++ second) before after ↔
      ∃ middle, Accepts publish topic first before middle ∧
        Accepts publish topic second middle after := by
  induction first generalizing before with
  | nil =>
    constructor
    · exact fun accepted => ⟨before, .nil before, accepted⟩
    · rintro ⟨middle, ⟨⟩, accepted⟩
      exact accepted
  | cons frame rest ih =>
    constructor
    · rintro (_ | ⟨published, others⟩)
      obtain ⟨middle, here, there⟩ := ih.1 others
      exact ⟨middle, .cons published here, there⟩
    · rintro ⟨middle, _ | ⟨published, here⟩, there⟩
      exact .cons published (ih.2 ⟨middle, here, there⟩)

theorem Accepts.eq (accepted : Accepts publish topic frames before after)
    (also : Accepts publish topic frames before middle) : after = middle := by
  induction accepted with
  | nil transport =>
    cases also
    rfl
  | cons published others ih =>
    obtain _ | ⟨published', others'⟩ := also
    rw [published] at published'
    obtain ⟨-, rfl⟩ := Prod.mk.inj published'
    exact ih others'

theorem not_accepts {done rest : List Frame} {frame : Frame} {outcome : Outcome}
    {notices : List Notice} {last : σ} (accepted : Accepts publish topic done before middle)
    (refused : publish ⟨topic, frame.encode⟩ middle = (⟨outcome, notices⟩, after))
    (other : outcome ≠ .accepted) :
    ¬ Accepts publish topic (done ++ frame :: rest) before last := by
  intro all
  obtain ⟨here, first, _ | ⟨published, -⟩⟩ := accepts_append.1 all
  rw [first.eq accepted, refused] at published
  exact other (congrArg Attempt.outcome (Prod.mk.inj published).1)

theorem Publishes.sent_iff {result : SendResult α}
    (h : Publishes publish topic frames value before result after) :
    result = .sent value ↔ ∃ last, Accepts publish topic frames before last := by
  cases h with
  | all accepted => exact ⟨fun _ => ⟨_, accepted⟩, fun _ => rfl⟩
  | failed parts accepted refused =>
    subst parts
    refine ⟨nofun, ?_⟩
    rintro ⟨last, all⟩
    exact absurd all (not_accepts accepted refused (by simp))
  | blocked parts accepted refused =>
    subst parts
    refine ⟨nofun, ?_⟩
    rintro ⟨last, all⟩
    exact absurd all (not_accepts accepted refused (by simp))

end VoiceBus.Sender
