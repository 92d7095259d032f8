import VoiceBus.Encoder
import VoiceBus.Frame.Verify
import VoiceBus.Notice.Basic

/-! # Notices of the frame codec

A header that has a field too wide gives notice each time it is written as bytes, of the first
such field only.
-/

namespace VoiceBus

/-- Notices of writing a header once. -/
def Header.encodeNotices (header : Header) : List Notice :=
  match header.overflow? with
  | none => []
  | some field => [.fieldTruncated field (header.narrow field)]

namespace Frame

/-- Notices of making a frame: its header is written once, for the checksum. -/
def makeNotices (header : Header) (payload : Bytes) : List Notice :=
  match make header payload with
  | .ok _ => header.encodeNotices
  | .error _ => []

/-- Notices of making the bytes of a frame: its header is written twice. -/
def assembleNotices (header : Header) (payload : Bytes) : List Notice :=
  match make header payload with
  | .ok frame => header.encodeNotices ++ frame.header.encodeNotices
  | .error _ => []

def verifyNotices (data : Bytes) : List Notice :=
  match verify data with
  | .ok frame =>
    if frame.valid then []
    else [.checksumMismatch frame.header.sequence frame.header.checksum frame.computedChecksum]
  | .error _ => []

end Frame

namespace Encoder

def frameNotices (flag : FrameFlag) (frame : Frame) : List Notice :=
  frame.header.encodeNotices ++
    [.frameEncoded frame.header.sequence flag frame.header.payloadLength]

/-- Notices of making one frame and writing its bytes. -/
def wireNotices (frame : Frame) : List Notice :=
  match frame.header.flag? with
  | some flag => frameNotices flag frame ++ frame.header.encodeNotices
  | none => []

/-- Notices of making frames, if that works. -/
def noticesOf {α : Type} (notices : α → List Notice) : Except FrameError α → List Notice
  | .ok made => notices made
  | .error _ => []

end Encoder

end VoiceBus
