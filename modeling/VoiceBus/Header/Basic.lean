import VoiceBus.Audio
import VoiceBus.Frame.Flag
import VoiceBus.Header.Field

/-! # Frame headers -/

namespace VoiceBus

/-- The header of a frame. Three of its fields keep fewer bits in a frame than they have here. -/
structure Header where
  /-- Format version, four bits in a frame. -/
  version : UInt8 := 0
  audioType : UInt8 := 0
  sampleRate : UInt16 := 0
  /-- Number of channels, two bits in a frame. -/
  channelCount : UInt8 := 0
  /-- Frame flag, two bits in a frame. -/
  frameFlag : UInt8 := 0
  /-- Number of the frame in its stream; it wraps. -/
  sequence : UInt16 := 0
  /-- When the frame was made; it wraps. -/
  timestamp : UInt16 := 0
  payloadLength : UInt16 := 0
  /-- Checksum of the header, this field zero, and the payload. -/
  checksum : UInt16 := 0
  deriving DecidableEq, Repr

namespace Header

def size : Nat := 12

/-- The version that new headers carry. -/
def currentVersion : UInt8 := 1

/-- A header of the current version whose length and checksum are still open. -/
def new (audio : AudioParams) (flag : FrameFlag) (sequence timestamp : UInt16) : Header where
  version := currentVersion
  audioType := audio.format.code
  sampleRate := audio.sampleRate
  channelCount := audio.channels
  frameFlag := flag.bits
  sequence := sequence
  timestamp := timestamp

/-- The format that the header names, if it is registered. -/
def audioFormat? (header : Header) : Option AudioFormat := AudioFormat.ofCode? header.audioType

/-- The flag that the header carries, if it carries one. -/
def flag? (header : Header) : Option FrameFlag := FrameFlag.ofBits? header.frameFlag

/-! ## Narrow fields -/

def narrow (header : Header) : NarrowField → UInt8
  | .version => header.version
  | .channelCount => header.channelCount
  | .frameFlag => header.frameFlag

/-- The first narrow field whose value does not fit its bits. -/
def overflow? (header : Header) : Option NarrowField :=
  NarrowField.all.find? fun field => field.max < header.narrow field

/-- Checks that every narrow field fits its bits. -/
def validate (header : Header) : Except FrameError Unit :=
  match header.overflow? with
  | none => .ok ()
  | some field => .error (.fieldOutOfRange field (header.narrow field))

/-- The header as a frame carries it: narrow fields keep their low bits. -/
def truncate (header : Header) : Header :=
  { header with
    version := NarrowField.version.truncate header.version
    channelCount := NarrowField.channelCount.truncate header.channelCount
    frameFlag := NarrowField.frameFlag.truncate header.frameFlag }

theorem overflow?_eq_none_iff (header : Header) :
    header.overflow? = none ↔
      header.version ≤ 15 ∧ header.channelCount ≤ 3 ∧ header.frameFlag ≤ 3 := by
  simp only [overflow?, List.find?_eq_none, NarrowField.all, List.forall_mem_cons,
    decide_eq_true_eq]
  simp [narrow, NarrowField.max, NarrowField.limit, UInt8.not_lt]

theorem validate_eq_ok_iff (header : Header) :
    header.validate = .ok () ↔
      header.version ≤ 15 ∧ header.channelCount ≤ 3 ∧ header.frameFlag ≤ 3 := by
  rw [← overflow?_eq_none_iff]
  cases h : header.overflow? <;> simp [validate, h]

@[simp] theorem flag?_truncate (header : Header) : header.truncate.flag? = header.flag? :=
  FrameFlag.ofBits?_mod_four header.frameFlag

end Header

end VoiceBus
