import VoiceBus.Octets

/-! # The sixteen-bit cyclic checksum

The register divides by x^16 + x^12 + x^5 + 1, most significant bit first, and starts with all
bits set. A byte is eight one-bit shifts and a message is its bytes in turn, so a message may be
fed in any number of pieces.
-/

namespace VoiceBus.Crc

/-- The divisor without its leading term. -/
def poly : UInt16 := 0x1021

def initial : UInt16 := 0xFFFF

/-- Moves the register up one bit, subtracting the divisor when a bit leaves at the top. -/
def shift (register : UInt16) : UInt16 :=
  if register &&& 0x8000 = 0 then register <<< 1 else (register <<< 1) ^^^ poly

/-- Moves the register up by one byte. -/
def shiftByte (register : UInt16) : UInt16 :=
  shift (shift (shift (shift (shift (shift (shift (shift register)))))))

/-- Feeds one byte, which enters at the top of the register. -/
def feedByte (register : UInt16) (byte : UInt8) : UInt16 :=
  shiftByte (register ^^^ (byte.toUInt16 <<< 8))

def feed (register : UInt16) (data : Bytes) : UInt16 := data.foldl feedByte register

/-- The checksum of a whole message. -/
def checksum (data : Bytes) : UInt16 := feed initial data

/-- The register before any piece and after each one. -/
def registers (register : UInt16) : List Bytes → List UInt16
  | [] => [register]
  | piece :: rest => register :: registers (feed register piece) rest

@[simp] theorem feed_nil (register : UInt16) : feed register [] = register := rfl

theorem feed_append (register : UInt16) (first second : Bytes) :
    feed register (first ++ second) = feed (feed register first) second :=
  List.foldl_append

end VoiceBus.Crc
