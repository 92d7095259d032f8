import VoiceBus.Audio
import VoiceBus.Frame.Flag
import VoiceBus.Header.Field
import VoiceBus.Transport.Bus

/-! # Notices: what is worth telling an operator

A notice says what happened. Its level, its wording and its named fields follow from that.
-/

namespace VoiceBus

/-- Something that happened along the way. -/
inductive Notice
  /-- A header field was written without the bits that do not fit. -/
  | fieldTruncated (field : NarrowField) (value : UInt8)
  | checksumMismatch (sequence expected computed : UInt16)
  | frameEncoded (sequence : UInt16) (flag : FrameFlag) (payloadLength : UInt16)
  | publishFailed (topic : Topic) (sequence : UInt16) (error : TransportError)
  | fullPublished (topic : Topic) (sequence : UInt16) (audio : AudioParams) (size : Nat)
  | fragmentPublished (topic : Topic) (sequence : UInt16) (isLast : Bool) (size : Nat)
  | streamPublished (topic : Topic) (firstSequence : UInt16) (frames bytes : Nat)
  | frameMalformed (topic : Topic) (length : Nat) (error : FrameError)
  | checksumFailed (topic : Topic) (sequence expected computed : UInt16)
  | fragmentCorrupted (device : String) (dropped : Nat)
  | sequenceGap (device : String) (expected got : UInt16)
  | resynchronised (device : String) (sequence : UInt16)
  | utteranceComplete (device : String) (frames bytes : Nat)
  | fragmentsEvicted (device : String) (bytes : Nat)
  | faultDropped (topic : Topic) (length : Nat)
  | faultFlipped (topic : Topic) (length : Nat)
  deriving DecidableEq, Repr

namespace Notice

/-- How much a notice matters. -/
inductive Level
  | trace
  | debug
  | warn
  | error
  deriving DecidableEq, Repr

def Level.name : Level → String
  | trace => "TRACE"
  | debug => "DEBUG"
  | warn => "WARN"
  | error => "ERROR"

def level : Notice → Level
  | frameEncoded .. | fragmentPublished .. | faultDropped .. | faultFlipped .. => .trace
  | checksumMismatch .. | fullPublished .. | streamPublished .. | resynchronised ..
  | utteranceComplete .. | fragmentsEvicted .. => .debug
  | fieldTruncated .. | checksumFailed .. | fragmentCorrupted .. | sequenceGap .. => .warn
  | publishFailed .. | frameMalformed .. => .error

def message : Notice → String
  | fieldTruncated .. => "voice header field truncated to wire width"
  | checksumMismatch .. => "voice frame checksum mismatch"
  | frameEncoded .. => "encoded voice frame"
  | publishFailed .. => "voice publish failed"
  | fullPublished .. => "published full voice frame"
  | fragmentPublished .. => "published voice fragment"
  | streamPublished .. => "published fragmented voice stream"
  | frameMalformed .. => "malformed voice frame"
  | checksumFailed .. => "voice frame failed checksum"
  | fragmentCorrupted .. => "corrupted fragment, discarding rest of utterance"
  | sequenceGap .. => "fragment sequence gap"
  | resynchronised .. => "resynchronised on last fragment"
  | utteranceComplete .. => "fragmented utterance complete"
  | fragmentsEvicted .. => "evicted stale fragments"
  | faultDropped .. => "fault injection: dropped frame"
  | faultFlipped .. => "fault injection: flipped bit"

inductive Value
  | nat (value : Nat)
  | bool (value : Bool)
  | text (value : String)
  deriving DecidableEq, Repr

instance : Coe Nat Value := ⟨.nat⟩

instance : Coe UInt8 Value := ⟨fun value => .nat value.toNat⟩

instance : Coe UInt16 Value := ⟨fun value => .nat value.toNat⟩

instance : Coe Bool Value := ⟨.bool⟩

instance : Coe String Value := ⟨.text⟩

instance : Coe Topic Value := ⟨fun topic => .text topic.path⟩

def fields : Notice → List (String × Value)
  | fieldTruncated field value =>
    [("field", field.name), ("value", value), ("stored", field.truncate value)]
  | checksumMismatch sequence expected computed =>
    [("seq", sequence), ("expected", expected), ("computed", computed)]
  | frameEncoded sequence flag payloadLength =>
    [("seq", sequence), ("flag", flag.label), ("payload_len", payloadLength)]
  | publishFailed topic sequence error =>
    [("topic", topic), ("seq", sequence), ("error", error.message)]
  | fullPublished topic sequence audio size =>
    [("topic", topic), ("seq", sequence), ("format", audio.format.name),
      ("sample_rate", audio.sampleRate), ("channels", audio.channels), ("frame_len", size)]
  | fragmentPublished topic sequence isLast size =>
    [("topic", topic), ("seq", sequence), ("is_last", isLast), ("frame_len", size)]
  | streamPublished topic firstSequence frames bytes =>
    [("topic", topic), ("first_seq", firstSequence), ("frames", frames), ("bytes", bytes)]
  | frameMalformed topic length error =>
    [("topic", topic), ("len", length), ("error", error.message)]
  | checksumFailed topic sequence expected computed =>
    [("topic", topic), ("seq", sequence), ("expected", expected), ("computed", computed)]
  | fragmentCorrupted device dropped => [("device", device), ("dropped_bytes", dropped)]
  | sequenceGap device expected got =>
    [("device", device), ("expected", expected), ("got", got)]
  | resynchronised device sequence => [("device", device), ("seq", sequence)]
  | utteranceComplete device frames bytes =>
    [("device", device), ("frames", frames), ("bytes", bytes)]
  | fragmentsEvicted device bytes => [("device", device), ("bytes", bytes)]
  | faultDropped topic length => [("topic", topic), ("len", length)]
  | faultFlipped topic length => [("topic", topic), ("len", length)]

end Notice

end VoiceBus
