import VoiceBus.Config.Reader
import VoiceBus.Proofs.Topic.Grammar

/-! # Configurations that pass

A configuration passes when its topic can be read and its fragment size can be used. What is read
from a document or built has passed, and nothing about it was changed on the way.
-/

namespace VoiceBus

namespace Config

variable {config other : Config}

theorem validate_eq_ok_iff :
    config.validate = .ok () ↔
      (∃ topic, config.parsedTopic = .ok topic) ∧ Frame.IsPieceSize config.maxFragment := by
  unfold validate
  cases parsed : config.parsedTopic with
  | error error => simp
  | ok topic =>
    by_cases fits : Frame.IsPieceSize config.maxFragment
    · simp [fits]
    · simp [fits]

theorem checked_eq_ok_iff :
    config.checked = .ok other ↔ config.validate = .ok () ∧ config = other := by
  unfold checked
  cases passed : config.validate with
  | error error => simp [Except.map]
  | ok _ => simp [Except.map]

theorem validate_of_build {draft : Draft} (built : draft.build = .ok config) :
    config.validate = .ok () := by
  obtain ⟨passed, same⟩ := checked_eq_ok_iff.1 built
  rwa [same] at passed

theorem validate_of_read {text : String} (loaded : read text = .ok config) :
    config.validate = .ok () := by
  unfold read at loaded
  split at loaded
  · exact validate_of_build loaded
  · cases loaded

end Config

end VoiceBus
