/-! # Bytes and sixteen-bit words -/

namespace VoiceBus

/-- Bytes in the order they travel. -/
abbrev Bytes := List UInt8

/-- The word with `high` on top and `low` at the bottom. -/
def word (high low : UInt8) : UInt16 := high.toUInt16 * 256 + low.toUInt16

/-- The two bytes of a word, the high one first. -/
def wordBytes (w : UInt16) : Bytes := [(w / 256).toUInt8, w.toUInt8]

@[simp] theorem length_wordBytes (w : UInt16) : (wordBytes w).length = 2 := rfl

theorem toNat_word (high low : UInt8) : (word high low).toNat = high.toNat * 256 + low.toNat := by
  have h := high.toNat_lt
  have l := low.toNat_lt
  simp only [word, UInt16.toNat_add, UInt16.toNat_mul, UInt8.toNat_toUInt16, UInt16.reduceToNat]
  omega

@[simp] theorem wordBytes_word (high low : UInt8) : wordBytes (word high low) = [high, low] := by
  have h := high.toNat_lt
  have l := low.toNat_lt
  simp only [wordBytes, List.cons.injEq, and_true, ← UInt8.toNat_inj, UInt16.toNat_toUInt8,
    UInt16.toNat_div, toNat_word, UInt16.reduceToNat]
  omega

@[simp] theorem word_bytes (w : UInt16) : word (w / 256).toUInt8 w.toUInt8 = w := by
  have h := w.toNat_lt
  simp only [← UInt16.toNat_inj, toNat_word, UInt16.toNat_toUInt8, UInt16.toNat_div,
    UInt16.reduceToNat]
  omega

end VoiceBus
