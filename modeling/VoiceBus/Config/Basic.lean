import VoiceBus.Clock
import VoiceBus.Frame.Basic
import VoiceBus.Topic

/-! # Configurations -/

namespace VoiceBus

/-- How one device sends and receives voice. -/
structure Config where
  audio : AudioParams := {}
  topic : String := "test/T0001/A0001/voice/server"
  /-- The longest payload of one piece of a stream. -/
  maxFragment : Nat := 1024
  /-- How long an unfinished utterance is kept. -/
  expiry : Duration := .ofSeconds 120
  deriving DecidableEq, Repr

/-- Why a configuration cannot be used. -/
inductive ConfigError
  /-- The document is no JSON or a value has the wrong type. -/
  | malformed
  | invalidTopic (error : TopicError)
  | invalidFragmentSize (size : Nat)
  deriving DecidableEq, Repr

def ConfigError.message : ConfigError → String
  | malformed => "malformed config"
  | invalidTopic error => "invalid topic: " ++ error.message
  | invalidFragmentSize size => s!"invalid max fragment size: {size}"

namespace Config

def parsedTopic (config : Config) : Except ConfigError Topic :=
  (Topic.parse config.topic).mapError .invalidTopic

/-- Checks the topic and then the fragment size. -/
def validate (config : Config) : Except ConfigError Unit :=
  match config.parsedTopic with
  | .error error => .error error
  | .ok _ =>
    if Frame.IsPieceSize config.maxFragment then .ok ()
    else .error (.invalidFragmentSize config.maxFragment)

def checked (config : Config) : Except ConfigError Config := config.validate.map fun _ => config

end Config

/-! ## Drafts -/

/-- The audio fields that are given. -/
structure AudioDraft where
  sampleRate : Option UInt16 := none
  channels : Option UInt8 := none
  format : Option AudioFormat := none
  deriving DecidableEq, Repr

/-- The given fields put over `base`. -/
def AudioDraft.onto (draft : AudioDraft) (base : AudioParams) : AudioParams where
  sampleRate := draft.sampleRate.getD base.sampleRate
  channels := draft.channels.getD base.channels
  format := draft.format.getD base.format

/-- The fields of a configuration that are given. -/
structure Draft where
  audio : AudioDraft := {}
  topic : Option String := none
  maxFragment : Option Nat := none
  expiry : Option Duration := none
  deriving DecidableEq, Repr

namespace Draft

/-- The given fields put over `base`. -/
def onto (draft : Draft) (base : Config) : Config where
  audio := draft.audio.onto base.audio
  topic := draft.topic.getD base.topic
  maxFragment := draft.maxFragment.getD base.maxFragment
  expiry := draft.expiry.getD base.expiry

/-- The given fields put over the defaults. -/
def complete (draft : Draft) : Config := draft.onto {}

/-- The completed configuration, if it passes. -/
def build (draft : Draft) : Except ConfigError Config := draft.complete.checked

end Draft

end VoiceBus
