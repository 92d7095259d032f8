import VoiceBus.Config.Basic
import VoiceBus.Transport.Bus

/-! # Errors of sending and receiving -/

namespace VoiceBus

/-- Why a voice frame was not sent or not received. -/
inductive Error
  | frame (error : FrameError)
  | topic (error : TopicError)
  | transport (error : TransportError)
  | config (error : ConfigError)
  deriving DecidableEq, Repr

namespace Error

def message : Error → String
  | frame error => "frame error: " ++ error.message
  | topic error => "topic error: " ++ error.message
  | transport error => "transport error: " ++ error.message
  | config error => "config error: " ++ error.message

/-- Whether the error concerns one frame only, so that later ones may still succeed. -/
def isPerFrame : Error → Bool
  | frame _ => true
  | topic _ | transport _ | config _ => false

end Error

end VoiceBus
