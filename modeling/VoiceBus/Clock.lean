import VoiceBus.Numeric.Binary64

/-! # Time

Spans of time, and the clocks that stamp frames. A clock is the sequence of its readings.
-/

namespace VoiceBus

/-- A span of time: whole seconds, and nanoseconds that do not make a second. -/
structure Duration where
  seconds : UInt64 := 0
  nanoseconds : Fin 1000000000 := ⟨0, by decide⟩
  deriving DecidableEq, Repr

namespace Duration

/-- Nanoseconds in a second. -/
def perSecond : Nat := 1000000000

/-- The span in nanoseconds. -/
def total (span : Duration) : Nat := span.seconds.toNat * perSecond + span.nanoseconds

def ofSeconds (seconds : UInt64) : Duration := { seconds }

/-- The span of so many nanoseconds, if its seconds fit their word. -/
def ofTotal? (total : Nat) : Option Duration :=
  if total / perSecond < UInt64.size then
    some ⟨UInt64.ofNat (total / perSecond), ⟨total % perSecond, Nat.mod_lt _ (by decide)⟩⟩
  else none

/-! ## As a number of seconds -/

/-- The span in seconds as a binary number: its two parts rounded, added and rounded. -/
def toBinary64 (span : Duration) : Rat :=
  Numeric.Binary64.round
    (Numeric.Binary64.round span.seconds.toNat +
      Numeric.Binary64.round ((span.nanoseconds.val : Rat) / (perSecond : Rat)))

/-- The span nearest to a number of seconds; a half nanosecond goes to the even neighbour. -/
def ofBinary64? (seconds : Rat) : Option Duration :=
  ofTotal? (Numeric.roundHalfEven (seconds * (perSecond : Rat)))

theorem total_lt (span : Duration) : span.total < UInt64.size * perSecond := by
  have s := span.seconds.toNat_lt
  have n := span.nanoseconds.isLt
  simp only [total, perSecond, UInt64.size]
  omega

theorem ofTotal?_total (span : Duration) : ofTotal? span.total = some span := by
  have s := span.seconds.toNat_lt_size
  have n := span.nanoseconds.isLt
  have whole : span.total / perSecond = span.seconds.toNat := by
    simp only [total, perSecond]
    omega
  have rest : span.total % perSecond = span.nanoseconds := by
    simp only [total, perSecond]
    omega
  simp only [ofTotal?, whole, rest, s, if_true, UInt64.ofNat_toNat]

end Duration

namespace Clock

/-- A clock that gives these readings in order and then repeats the last one; without any it
stands at zero. -/
def ofReadings (readings : Array UInt16) (n : Nat) : UInt16 :=
  (readings[n]?).getD (readings.back?.getD 0)

/-- The stamp of a time given in seconds since the epoch: its low sixteen bits. -/
def stamp (seconds : Nat) : UInt16 := UInt16.ofNat seconds

/-- A clock that gives the stamps of these times. -/
def ofTimes (seconds : Nat → Nat) (n : Nat) : UInt16 := stamp (seconds n)

theorem toNat_stamp (seconds : Nat) : (stamp seconds).toNat = seconds % 65536 := by
  simp [stamp]

end Clock

end VoiceBus
