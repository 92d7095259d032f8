/-! # The frame flag: where a frame stands in its utterance -/

namespace VoiceBus

/-- Where a frame stands in its utterance. -/
inductive FrameFlag
  /-- A whole utterance. -/
  | full
  /-- A piece that others follow. -/
  | fragment
  /-- The piece that closes an utterance. -/
  | last
  deriving DecidableEq, Repr

namespace FrameFlag

/-- Every flag, in the order of its bits. -/
def all : List FrameFlag := [full, fragment, last]

/-- The two bits that stand for the flag in a header. -/
def bits : FrameFlag → UInt8
  | full => 1
  | fragment => 2
  | last => 3

/-- The flag in the low two bits of a byte; zero stands for none. -/
def ofBits? (byte : UInt8) : Option FrameFlag := all.find? (·.bits = byte % 4)

/-- Whether a frame with this flag is one piece among several. -/
def isFragmented : FrameFlag → Bool
  | full => false
  | fragment | last => true

def label : FrameFlag → String
  | full => "Full"
  | fragment => "Fragment"
  | last => "Last"

@[simp] theorem ofBits?_bits (flag : FrameFlag) : ofBits? flag.bits = some flag := by
  cases flag <;> decide

theorem ofBits?_mod_four (byte : UInt8) : ofBits? (byte % 4) = ofBits? byte := by
  have h : byte % 4 % 4 = byte % 4 := by
    simp only [← UInt8.toNat_inj, UInt8.toNat_mod, UInt8.reduceToNat]
    omega
  simp only [ofBits?, h]

end FrameFlag

end VoiceBus
