import VoiceBus.Frame.Basic

/-! # Checking received bytes

Bytes that are too short are an error. A wrong checksum is not: the frame is handed on with the
verdict beside it. Bytes after the announced payload are ignored.
-/

namespace VoiceBus

/-- A received frame and the verdict on its checksum. -/
structure VerifiedFrame where
  header : Header
  payload : Bytes
  /-- Whether the checksum in the header is the one computed from the bytes. -/
  valid : Bool
  deriving DecidableEq, Repr

namespace VerifiedFrame

/-- The checksum that the header should carry. -/
def computedChecksum (frame : VerifiedFrame) : UInt16 := Frame.checksum frame.header frame.payload

def toFrame (frame : VerifiedFrame) : Frame := ⟨frame.header, frame.payload⟩

end VerifiedFrame

/-- Reads the frame that the bytes start with and compares its checksum. -/
def Frame.verify (data : Bytes) : Except FrameError VerifiedFrame :=
  match Header.decode data with
  | .error error => .error error
  | .ok header =>
    let need := Header.size + header.payloadLength.toNat
    if data.length < need then .error (.truncatedFrame need data.length)
    else
      let payload := (data.drop Header.size).take header.payloadLength.toNat
      .ok ⟨header, payload, Frame.checksum header payload = header.checksum⟩

end VoiceBus
