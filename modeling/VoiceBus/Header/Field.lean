/-! # Header fields narrower than a byte, and what can be wrong with a frame -/

namespace VoiceBus

/-- A header field that has fewer bits in a frame than in a header. -/
inductive NarrowField
  | version
  | channelCount
  | frameFlag
  deriving DecidableEq, Repr

namespace NarrowField

/-- Every narrow field, in the order in which they are looked at. -/
def all : List NarrowField := [version, channelCount, frameFlag]

def name : NarrowField → String
  | version => "version"
  | channelCount => "channel_count"
  | frameFlag => "frame_flag"

/-- The least value that does not fit the field's bits in a frame. -/
def limit : NarrowField → UInt8
  | version => 16
  | channelCount => 4
  | frameFlag => 4

/-- The largest value that a frame carries. -/
def max (field : NarrowField) : UInt8 := field.limit - 1

/-- The part of a value that a frame carries: its low bits. -/
def truncate (field : NarrowField) (value : UInt8) : UInt8 := value % field.limit

theorem mem_all (field : NarrowField) : field ∈ all := by cases field <;> decide

end NarrowField

/-- Why bytes are no frame, or why no frame can be made. -/
inductive FrameError
  | truncatedHeader (need got : Nat)
  | truncatedFrame (need got : Nat)
  | payloadTooLarge (length : Nat)
  | fieldOutOfRange (field : NarrowField) (value : UInt8)
  /-- Pieces of this size cannot be cut, or cannot be sent. -/
  | invalidFragmentSize (size : Nat)
  deriving DecidableEq, Repr

def FrameError.message : FrameError → String
  | truncatedHeader need got => s!"truncated header: need {need} bytes, have {got}"
  | truncatedFrame need got => s!"truncated frame: need {need} bytes, have {got}"
  | payloadTooLarge length => s!"payload too large: {length} bytes (max 65535)"
  | fieldOutOfRange field value =>
    s!"{field.name} out of range: {value} (max {field.max})"
  | invalidFragmentSize size => s!"invalid fragment size: {size}"

end VoiceBus
