import Mathlib.Data.FinEnum
import VoiceBus.Proofs.Crc.Powers
import VoiceBus.Proofs.Frame.Flip
import VoiceBus.Reference

/-!
# A flip that shortens a frame

A bit of the announced length that is cleared leaves the frame of a shorter payload, with the
checksum of the longer one. It passes when the two checksums are the same. So a single flipped bit
is not always noticed: once the two last bytes of the payload are cut off with the rest, one choice
of them in 65536 passes.
-/

namespace VoiceBus

/-! ## The last word of a message -/

namespace Crc

theorem feed_wordBytes_injective (register : UInt16) :
    Function.Injective fun word => feed register (wordBytes word) := by
  intro first second same
  have length : (wordBytes second).length = (wordBytes first).length := rfl
  have equal : wordBytes second = wordBytes first := by
    by_contra differ
    have within : Frame.DiffersWithin 0 16 (wordBytes first) (wordBytes second) := by
      intro i inside _
      rw [length_wordBytes] at inside
      omega
    exact Frame.feed_ne_of_differsWithin register length differ (Nat.le_refl 16) within same
  unfold wordBytes at equal
  simp only [List.cons.injEq, and_true] at equal
  rw [← word_bytes first, ← word_bytes second, equal.1, equal.2]

theorem existsUnique_feed_wordBytes (register target : UInt16) :
    ∃! word, feed register (wordBytes word) = target :=
  (Finite.injective_iff_bijective.1 (feed_wordBytes_injective register)).existsUnique target

end Crc

namespace Frame

/-! ## A cleared bit of the length -/

/-- Which bit of the announced length a bit of the frame is. -/
def lengthPlace? (bit : Nat) : Option Nat :=
  if bit / 8 = 8 then some (8 + bit % 8) else if bit / 8 = 9 then some (bit % 8) else none

theorem testBit_high (high low : UInt8) (j : Nat) :
    (word high low).toNat.testBit (8 + j) = high.toNat.testBit j := by
  rw [toNat_word, Nat.mul_comm, Nat.testBit_two_pow_mul_add (i := 8) high.toNat low.toNat_lt]
  simp

theorem testBit_low (high low : UInt8) {j : Nat} (h : j < 8) :
    (word high low).toNat.testBit j = low.toNat.testBit j := by
  rw [toNat_word, Nat.mul_comm, Nat.testBit_two_pow_mul_add (i := 8) high.toNat low.toNat_lt]
  simp [h]

theorem ofNat_clear_high {high low : UInt8} {j : Nat} (h : j < 8)
    (set : (word high low).toNat.testBit (8 + j) = true) :
    UInt16.ofNat ((word high low).toNat - 2 ^ (8 + j)) =
      word (high ^^^ 1 <<< UInt8.ofNat j) low := by
  rw [testBit_high] at set
  have cleared := toNat_flip_add h set
  have small := Nat.lt_of_le_of_lt (Nat.sub_le _ (2 ^ (8 + j))) (word high low).toNat_lt
  rw [← UInt16.toNat_inj, UInt16.toNat_ofNat', Nat.mod_eq_of_lt small, toNat_word, toNat_word,
    Nat.pow_add]
  omega

theorem ofNat_clear_low {high low : UInt8} {j : Nat} (h : j < 8)
    (set : (word high low).toNat.testBit j = true) :
    UInt16.ofNat ((word high low).toNat - 2 ^ j) =
      word high (low ^^^ 1 <<< UInt8.ofNat j) := by
  rw [testBit_low _ _ h] at set
  have cleared := toNat_flip_add h set
  have small := Nat.lt_of_le_of_lt (Nat.sub_le _ (2 ^ j)) (word high low).toNat_lt
  rw [← UInt16.toNat_inj, UInt16.toNat_ofNat', Nat.mod_eq_of_lt small, toNat_word, toNat_word]
  omega

theorem flipBit_encode_append {header : Header} {bit place : Nat} (rest : Bytes)
    (inLength : lengthPlace? bit = some place)
    (set : header.payloadLength.toNat.testBit place = true) :
    flipBit bit (header.encode ++ rest) =
      { header with
        payloadLength := UInt16.ofNat (header.payloadLength.toNat - 2 ^ place) }.encode ++ rest := by
  have small := Nat.mod_lt bit (by decide : 0 < 8)
  have parts := word_bytes header.payloadLength
  rw [← parts] at set
  unfold lengthPlace? at inLength
  unfold flipBit Header.encode
  dsimp only
  split at inLength
  next high =>
    obtain rfl := Option.some.inj inLength
    have cleared := ofNat_clear_high small set
    rw [parts] at cleared
    rw [high, cleared, wordBytes_word]
    rfl
  next =>
    split at inLength
    next low =>
      obtain rfl := Option.some.inj inLength
      have cleared := ofNat_clear_low small set
      rw [parts] at cleared
      rw [low, cleared, wordBytes_word]
      rfl
    next => cases inLength

/-- The payload that is left when a bit of its length is cleared. -/
def leftOver (payload : Bytes) (place : Nat) : Bytes := payload.take (payload.length - 2 ^ place)

variable {header : Header} {payload wire : Bytes} {bit place : Nat}

theorem length_leftOver (payload : Bytes) (place : Nat) :
    (leftOver payload place).length = payload.length - 2 ^ place :=
  List.length_take_of_le (Nat.sub_le _ _)

theorem checksum_sealHeader_withLength (header : Header) (payload kept : Bytes) :
    checksum { sealHeader header payload with payloadLength := kept.length.toUInt16 } kept =
      (sealHeader header kept).checksum := by
  simp only [sealHeader]
  exact checksum_withChecksum { header with payloadLength := kept.length.toUInt16 } kept _

theorem verify_withLength (header : Header) {kept : Bytes} (rest : Bytes)
    (h : kept.length ≤ maxPayload) :
    verify ({ header with payloadLength := kept.length.toUInt16 }.encode ++ (kept ++ rest)) =
      .ok ⟨{ header.truncate with payloadLength := kept.length.toUInt16 }, kept,
        checksum { header with payloadLength := kept.length.toUInt16 } kept = header.checksum⟩ := by
  have checked := verify_encode_append ⟨{ header with payloadLength := kept.length.toUInt16 }, kept⟩
    rest (toNat_length_toUInt16 h)
  rwa [encode, List.append_assoc] at checked

theorem verify_shortened (short : payload.length ≤ maxPayload)
    (inLength : lengthPlace? bit = some place) (set : payload.length.testBit place = true) :
    verify (flipBit bit (encode ⟨sealHeader header payload, payload⟩)) =
      .ok ⟨{ (sealHeader header payload).truncate with
          payloadLength := (leftOver payload place).length.toUInt16 }, leftOver payload place,
        (sealHeader header (leftOver payload place)).checksum =
          (sealHeader header payload).checksum⟩ := by
  have length : (sealHeader header payload).payloadLength.toNat = payload.length :=
    toNat_length_toUInt16 short
  have kept : (leftOver payload place).length ≤ maxPayload := by
    rw [length_leftOver]
    exact Nat.le_trans (Nat.sub_le _ _) short
  have parts : leftOver payload place ++ payload.drop (payload.length - 2 ^ place) = payload :=
    List.take_append_drop _ payload
  have damaged := flipBit_encode_append payload inLength (by rw [length]; exact set)
  rw [length, ← length_leftOver, ← Nat.toUInt16_eq] at damaged
  have checked := verify_withLength (sealHeader header payload)
    (payload.drop (payload.length - 2 ^ place)) kept
  rw [checksum_sealHeader_withLength, parts] at checked
  rw [encode, damaged, checked]

theorem sparesLength_iff :
    SparesLength (encode ⟨sealHeader header payload, payload⟩) bit ↔
      ∀ place, lengthPlace? bit = some place →
        (sealHeader header payload).payloadLength.toNat.testBit place = false := by
  have small := Nat.mod_lt bit (by decide : 0 < 8)
  have parts := word_bytes (sealHeader header payload).payloadLength
  unfold SparesLength lengthPlace?
  constructor
  · intro spared place inLength
    split at inLength
    next high =>
      obtain rfl := Option.some.inj inLength
      have clear := spared (Or.inl high)
      rw [high] at clear
      rw [← parts, testBit_high]
      exact clear
    next =>
      split at inLength
      next low =>
        obtain rfl := Option.some.inj inLength
        have clear := spared (Or.inr low)
        rw [low] at clear
        rw [← parts, testBit_low _ _ small]
        exact clear
      next => cases inLength
  · rintro clear (high | low)
    · have bit := clear _ (if_pos high)
      rw [← parts, testBit_high] at bit
      rw [high]
      exact bit
    · have bit := clear _ ((if_neg (by omega)).trans (if_pos low))
      rw [← parts, testBit_low _ _ small] at bit
      rw [low]
      exact bit

/-! ## What passes -/

theorem flipped_passes_iff (short : payload.length ≤ maxPayload)
    (inside : bit < 8 * (encode ⟨sealHeader header payload, payload⟩).length) :
    (∃ frame, verify (flipBit bit (encode ⟨sealHeader header payload, payload⟩)) = .ok frame ∧
        frame.valid = true) ↔
      ∃ place, lengthPlace? bit = some place ∧ payload.length.testBit place = true ∧
        (sealHeader header (leftOver payload place)).checksum =
          (sealHeader header payload).checksum := by
  have length : (sealHeader header payload).payloadLength.toNat = payload.length :=
    toNat_length_toUInt16 short
  constructor
  · rintro ⟨frame, passed, valid⟩
    by_cases spared : SparesLength (encode ⟨sealHeader header payload, payload⟩) bit
    · have checked := verify_assembled header [] short
      rw [List.append_nil] at checked
      have exact : (encode ⟨sealHeader header payload, payload⟩).length = Header.size +
          (lengthField (encode ⟨sealHeader header payload, payload⟩)).toNat := by
        rw [length_encode, encode, lengthField_encode, length]
        rfl
      rcases verify_flipBit_spared checked rfl exact inside spared with
        ⟨other, damaged, shows⟩ | ⟨error, damaged⟩
      · rw [passed, Except.ok.injEq] at damaged
        rw [damaged, shows] at valid
        cases valid
      · rw [passed] at damaged
        cases damaged
    · rw [sparesLength_iff, length] at spared
      push Not at spared
      obtain ⟨place, inLength, set⟩ := spared
      rw [Bool.ne_false_iff] at set
      refine ⟨place, inLength, set, ?_⟩
      rw [verify_shortened short inLength set, Except.ok.injEq] at passed
      rw [← passed, decide_eq_true_eq] at valid
      exact valid
  · rintro ⟨place, inLength, set, same⟩
    exact ⟨_, verify_shortened short inLength set, decide_eq_true same⟩

theorem existsUnique_sealHeader_leftOver (header : Header) (front : Bytes) (positive : 0 < place) :
    ∃! word, (sealHeader header (leftOver (front ++ wordBytes word) place)).checksum =
      (sealHeader header (front ++ wordBytes word)).checksum := by
  have weight : 2 ≤ 2 ^ place := Nat.le_self_pow (Nat.ne_of_gt positive) 2
  have kept (word : UInt16) : leftOver (front ++ wordBytes word) place =
      front.take (front.length + 2 - 2 ^ place) := by
    unfold leftOver
    rw [List.length_append, length_wordBytes, List.take_append_of_le_length (by omega)]
  have whole (word : UInt16) : (sealHeader header (front ++ wordBytes word)).checksum =
      Crc.feed (checksum { header with payloadLength := (front.length + 2).toUInt16 } front)
        (wordBytes word) := by
    rw [checksum, Crc.checksum, ← Crc.feed_append, List.append_assoc]
    simp only [sealHeader, checksum, Crc.checksum, List.length_append, length_wordBytes]
  simp only [kept, whole]
  obtain ⟨word, reached, only⟩ := Crc.existsUnique_feed_wordBytes
    (checksum { header with payloadLength := (front.length + 2).toUInt16 } front)
    (sealHeader header (front.take (front.length + 2 - 2 ^ place))).checksum
  exact ⟨word, reached.symm, fun other same => only other same.symm⟩

/-- A flip passes when it clears a bit of the length and what is left has the same checksum. -/
theorem flip_passes_iff :
    (∀ header payload wire bit, payload.length ≤ maxPayload →
      assemble header payload = .ok wire → bit < 8 * wire.length →
      ((∃ frame, verify (flipBit bit wire) = .ok frame ∧ frame.valid = true) ↔
        ∃ place, lengthPlace? bit = some place ∧ payload.length.testBit place = true ∧
          (sealHeader header (leftOver payload place)).checksum =
            (sealHeader header payload).checksum)) ∧
    (∀ header payload wire bit place, payload.length ≤ maxPayload →
      assemble header payload = .ok wire → lengthPlace? bit = some place →
      payload.length.testBit place = true →
      verify (flipBit bit wire) =
        .ok ⟨{ (sealHeader header payload).truncate with
            payloadLength := (leftOver payload place).length.toUInt16 }, leftOver payload place,
          (sealHeader header (leftOver payload place)).checksum =
            (sealHeader header payload).checksum⟩) ∧
    ∀ header front bit place, front.length + 2 ≤ maxPayload → lengthPlace? bit = some place →
      0 < place → (front.length + 2).testBit place = true →
      ∃! word, ∃ wire, assemble header (front ++ wordBytes word) = .ok wire ∧
        ∃ frame, verify (flipBit bit wire) = .ok frame ∧ frame.valid = true := by
  refine ⟨?_, ?_, ?_⟩
  · intro header payload wire bit short assembled inside
    rw [assemble_of_length_le header short] at assembled
    obtain rfl := Except.ok.inj assembled
    exact flipped_passes_iff short inside
  · intro header payload wire bit place short assembled inLength set
    rw [assemble_of_length_le header short] at assembled
    obtain rfl := Except.ok.inj assembled
    exact verify_shortened short inLength set
  · intro header front bit place room inLength positive set
    have length (word : UInt16) : (front ++ wordBytes word).length = front.length + 2 := by
      rw [List.length_append, length_wordBytes]
    have passes (word : UInt16) : (∃ wire, assemble header (front ++ wordBytes word) = .ok wire ∧
        ∃ frame, verify (flipBit bit wire) = .ok frame ∧ frame.valid = true) ↔
        (sealHeader header (leftOver (front ++ wordBytes word) place)).checksum =
          (sealHeader header (front ++ wordBytes word)).checksum := by
      have short : (front ++ wordBytes word).length ≤ maxPayload := by rw [length]; exact room
      have cut : (front ++ wordBytes word).length.testBit place = true := by rw [length]; exact set
      rw [assemble_of_length_le header short]
      simp only [Except.ok.injEq, exists_eq_left', verify_shortened short inLength cut,
        decide_eq_true_eq]
    simp only [passes]
    exact existsUnique_sealHeader_leftOver header front positive

/-- A frame of two bytes that passes when its length is cleared. -/
def brittleWire : Bytes := [16, 51, 232, 5, 0, 1, 3, 232, 0, 2, 233, 16, 4, 192]

theorem brittleWire_passes :
    assemble Reference.header [4, 192] = .ok brittleWire ∧
    (∃ frame, verify (flipBit 73 brittleWire) = .ok frame ∧ frame.valid = true) ∧
    verify (flipBit 73 brittleWire) =
      .ok ⟨{ Reference.header with checksum := 59664 }, [], true⟩ ∧
    ∃! word, ∃ wire, assemble Reference.header ([1, 2, 3] ++ wordBytes word) = .ok wire ∧
      ∃ frame, verify (flipBit 74 wire) = .ok frame ∧ frame.valid = true := by
  have assembled : assemble Reference.header [4, 192] = .ok brittleWire := by decide +kernel
  refine ⟨assembled, ?_, ?_, ?_⟩
  · exact (flip_passes_iff.1 _ _ _ 73 (by decide) assembled (by decide)).2
      ⟨1, rfl, by decide, by decide +kernel⟩
  · exact (flip_passes_iff.2.1 _ _ _ 73 1 (by decide) assembled rfl (by decide)).trans
      (by decide +kernel)
  · exact flip_passes_iff.2.2 Reference.header [1, 2, 3] 74 2 (by decide) rfl (by decide) (by decide)

theorem cleared_length_not_noticed :
    ∃ wire, assemble Reference.header [4, 192] = .ok wire ∧ 73 < 8 * wire.length ∧
      ∃ frame, verify (flipBit 73 wire) = .ok frame ∧ frame.valid = true ∧ frame.payload = [] :=
  ⟨brittleWire, by decide +kernel, by decide,
    ⟨{ Reference.header with checksum := 59664 }, [], true⟩, by decide +kernel, rfl, rfl⟩

end Frame

end VoiceBus
