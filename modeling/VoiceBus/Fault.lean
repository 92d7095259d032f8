import VoiceBus.Octets

/-! # Faults by chance

A profile gives the rates at which messages are lost and corrupted. Chance itself is an argument:
a message is lost when its draw lies below the rate, so a rate of zero never loses one and a rate
of one always does.
-/

namespace VoiceBus

/-- A number drawn at random, from zero up to but not including one. -/
structure Draw where
  value : Rat := 0
  nonneg : 0 ≤ value := by decide
  lt_one : value < 1 := by decide

/-- What chance decides about one message. -/
structure Luck where
  loss : Draw := {}
  corruption : Draw := {}
  /-- Any number; the bit that it picks is found by its remainder. -/
  bit : Nat := 0

instance : Inhabited Luck := ⟨{}⟩

/-- Chance, as what it will decide about every message and how many decisions have been taken. -/
structure Chance where
  luck : Nat → Luck
  taken : Nat := 0

def Chance.draw (chance : Chance) : Luck × Chance :=
  (chance.luck chance.taken, { chance with taken := chance.taken + 1 })

/-- How often messages are lost and corrupted. -/
structure FaultProfile where
  lossRate : Rat := 0
  corruptionRate : Rat := 0
  deriving DecidableEq, Repr

namespace FaultProfile

def perfect : FaultProfile := {}

def alwaysCorrupt : FaultProfile := { corruptionRate := 1 }

/-- Now and then a message is lost or corrupted. -/
def noisy : FaultProfile := { lossRate := 1 / 20, corruptionRate := 1 / 20 }

def drops (profile : FaultProfile) (draw : Draw) : Bool := draw.value < profile.lossRate

def corrupts (profile : FaultProfile) (draw : Draw) : Bool := draw.value < profile.corruptionRate

theorem not_drops_of_nonpos {profile : FaultProfile} (h : profile.lossRate ≤ 0) (draw : Draw) :
    profile.drops draw = false := by
  simpa [drops] using Rat.not_lt.2 (Rat.le_trans h draw.nonneg)

theorem drops_of_one_le {profile : FaultProfile} (h : 1 ≤ profile.lossRate) (draw : Draw) :
    profile.drops draw = true := by
  simpa [drops] using Std.lt_of_lt_of_le draw.lt_one h

end FaultProfile

/-! ## A flipped bit -/

/-- The bytes with one bit inverted. Bit `8 * i + j` is the one of weight `2 ^ j` in byte `i`; a
bit behind the end is none. -/
def flipBit (bit : Nat) (data : Bytes) : Bytes :=
  data.modify (bit / 8) fun byte => byte ^^^ (1 <<< UInt8.ofNat (bit % 8))

/-- The bytes with the picked bit inverted; no bytes stay no bytes. -/
def flipPicked (pick : Nat) (data : Bytes) : Bytes := flipBit (pick % (8 * data.length)) data

@[simp] theorem length_flipBit (bit : Nat) (data : Bytes) :
    (flipBit bit data).length = data.length := by
  simp [flipBit]

end VoiceBus
