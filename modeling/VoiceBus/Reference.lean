import VoiceBus.Fault
import VoiceBus.Frame.Basic

/-! # What the reference device sends, and edits that damage it -/

namespace VoiceBus

namespace Reference

/-- The library's version. -/
def version : String := "0.1.0"

/-- The payload of the reference device. -/
def payload : Bytes := "OPUS_DUMMY_FRAME_1234567890".toUTF8.toList

/-- The header of the reference device: one whole utterance in Opus, one channel at 16 kHz. -/
def header : Header := Header.new {} .full 1 1000

end Reference

/-! ## Edits -/

inductive Edit
  | flip (bit : Nat)
  | set (index : Nat) (value : UInt8)
  /-- Cuts bytes off that stand beyond this length. -/
  | truncate (length : Nat)
  | append (data : Bytes)
  deriving DecidableEq, Repr

namespace Edit

/-- The bytes after one change. A byte that is not there is not set. -/
def apply (data : Bytes) : Edit → Bytes
  | flip bit => flipBit bit data
  | set index value => data.set index value
  | truncate length => data.take length
  | append more => data ++ more

def applyAll (data : Bytes) (edits : List Edit) : Bytes := edits.foldl apply data

end Edit

def bitCount (byte : UInt8) : Nat :=
  (List.range 8).countP fun bit => (byte.toNat >>> bit) % 2 = 1

/-- The number of bits in which two byte strings differ where both have a byte. -/
def changedBits (before after : Bytes) : Nat :=
  (before.zip after).foldl (fun count (a, b) => count + bitCount (a ^^^ b)) 0

end VoiceBus
