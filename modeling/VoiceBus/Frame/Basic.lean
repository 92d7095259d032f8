import VoiceBus.Crc
import VoiceBus.Header.Layout

/-! # Frames: a sealed header and its payload -/

namespace VoiceBus

structure Frame where
  header : Header
  payload : Bytes
  deriving DecidableEq, Repr

namespace Frame

/-- The longest payload that the length field can announce. -/
def maxPayload : Nat := 65535

/-- Whether data can be cut into payloads of this size. -/
def IsPieceSize (size : Nat) : Prop := 0 < size ∧ size ≤ maxPayload

instance (size : Nat) : Decidable (IsPieceSize size) :=
  inferInstanceAs (Decidable (0 < size ∧ size ≤ maxPayload))

/-- The checksum of a header, its own checksum field zero, and a payload. -/
def checksum (header : Header) (payload : Bytes) : UInt16 :=
  Crc.checksum (header.encodeUnsummed ++ payload)

/-- A header with the length and the checksum that belong to a payload. -/
def sealHeader (header : Header) (payload : Bytes) : Header :=
  let measured := { header with payloadLength := payload.length.toUInt16 }
  { measured with checksum := checksum measured payload }

/-- Makes a frame. The length and checksum that the header came with are replaced. -/
def make (header : Header) (payload : Bytes) : Except FrameError Frame :=
  if payload.length ≤ maxPayload then .ok ⟨sealHeader header payload, payload⟩
  else .error (.payloadTooLarge payload.length)

def size (frame : Frame) : Nat := Header.size + frame.payload.length

def isEmpty (frame : Frame) : Bool := frame.payload.isEmpty

def encode (frame : Frame) : Bytes := frame.header.encode ++ frame.payload

/-- The bytes of the frame with this header and payload. -/
def assemble (header : Header) (payload : Bytes) : Except FrameError Bytes :=
  (make header payload).map encode

@[simp] theorem length_encode (frame : Frame) : frame.encode.length = frame.size := by
  simp [encode, size]

theorem make_of_length_le {header : Header} {payload : Bytes} (h : payload.length ≤ maxPayload) :
    make header payload = .ok ⟨sealHeader header payload, payload⟩ := by
  simp [make, h]

theorem make_of_lt_length {header : Header} {payload : Bytes} (h : maxPayload < payload.length) :
    make header payload = .error (.payloadTooLarge payload.length) := by
  simp [make, Nat.not_le.2 h]

end Frame

end VoiceBus
