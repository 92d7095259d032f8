import VoiceBus.Proofs.Crc.Bits
import VoiceBus.Proofs.Frame.Raw

/-!
# Bursts

Damage that spans at most sixteen bits in a row makes the checksum wrong, wherever in the frame it
is: before the announced length, in the checksum itself, or behind it.
-/

namespace VoiceBus.Frame

/-- Bytes that differ in no bit outside the `width` bits from `first` on. -/
def DiffersWithin (first width : Nat) (before after : Bytes) : Prop :=
  ∀ i < 8 * before.length, (bits before)[i]? ≠ (bits after)[i]? → first ≤ i ∧ i < first + width

instance (first width : Nat) (before after : Bytes) :
    Decidable (DiffersWithin first width before after) :=
  inferInstanceAs (Decidable (∀ i < _, _ → _))

/-- Bytes that differ at no other index than those from `first` up to `first + count`. -/
def DiffersAt (first count : Nat) (before after : Bytes) : Prop :=
  ∀ i, before[i]? ≠ after[i]? → first ≤ i ∧ i < first + count

/-- The bits lie before the announced length, in the checksum, or in the payload. -/
def InOnePart (first width : Nat) : Prop :=
  first + width ≤ 8 * 8 ∨ (8 * 10 ≤ first ∧ first + width ≤ 8 * 12) ∨ 8 * 12 ≤ first

instance (first width : Nat) : Decidable (InOnePart first width) :=
  inferInstanceAs (Decidable (_ ∨ _))

variable {wire damaged mask : Bytes} {first width : Nat}

theorem maskBytes_maskBytes (same : damaged.length = wire.length) :
    maskBytes wire (maskBytes wire damaged) = damaged := by
  unfold maskBytes
  apply List.ext_getElem
  · simp [same]
  · intro i _ _
    rw [List.getElem_zipWith, List.getElem_zipWith, ← UInt8.xor_assoc, UInt8.xor_self,
      UInt8.zero_xor]

theorem getElem?_bits_maskBytes (same : damaged.length = wire.length) (i : Nat) :
    (bits (maskBytes wire damaged))[i]? = some true ↔ (bits wire)[i]? ≠ (bits damaged)[i]? := by
  rw [getElem?_bits, getElem?_bits, getElem?_bits]
  unfold maskBytes
  by_cases inside : i / 8 < wire.length
  · rw [List.getElem?_eq_getElem (by simpa [same] using inside), List.getElem?_eq_getElem inside,
      List.getElem?_eq_getElem (by omega)]
    simp
  · rw [List.getElem?_eq_none (by simp; omega), List.getElem?_eq_none (by omega),
      List.getElem?_eq_none (by omega)]
    simp

theorem within_maskBytes (same : damaged.length = wire.length)
    (within : DiffersWithin first width wire damaged) (i : Nat)
    (h : (bits (maskBytes wire damaged))[i]? = some true) : first ≤ i ∧ i < first + width := by
  obtain ⟨inside, -⟩ := List.getElem?_eq_some_iff.1 h
  rw [length_bits, length_maskBytes same.symm] at inside
  exact within i inside ((getElem?_bits_maskBytes same i).1 h)

theorem getD_eq_zero {data : Bytes} {i : Nat} (clear : ∀ j < 8, (bits data)[8 * i + j]? ≠ some true) :
    data.getD i 0 = 0 := by
  rw [List.getD_eq_getElem?_getD]
  cases here : data[i]? with
  | none => rfl
  | some byte =>
    apply UInt8.toBitVec_inj.1
    apply BitVec.eq_of_getLsbD_eq
    intro j small
    have index : (8 * i + (7 - j)) / 8 = i := by omega
    have place : 7 - (8 * i + (7 - j)) % 8 = j := by omega
    have bit := clear (7 - j) (by omega)
    rw [getElem?_bits, index, place, here] at bit
    simpa using bit

theorem mem_bits_maskBytes (same : damaged.length = wire.length) (differs : damaged ≠ wire) :
    true ∈ bits (maskBytes wire damaged) := by
  by_contra clear
  apply differs
  rw [← maskBytes_maskBytes same]
  apply List.ext_getElem
  · rw [length_maskBytes (length_maskBytes same.symm).symm]
  · intro i left right
    have zero : (maskBytes wire damaged).getD i 0 = 0 :=
      getD_eq_zero fun j _ here => clear (List.mem_of_getElem? here)
    have byte := getD_maskBytes (length_maskBytes same.symm).symm i
    rwa [zero, UInt8.xor_zero, List.getD_eq_getElem _ _ left, List.getD_eq_getElem _ _ right] at byte

theorem feed_ne_of_differsWithin (register : UInt16) (same : damaged.length = wire.length)
    (differs : damaged ≠ wire) (narrow : width ≤ 16)
    (within : DiffersWithin first width wire damaged) :
    Crc.feed register wire ≠ Crc.feed register damaged := by
  intro equal
  have difference := Crc.feed_maskBytes register register same.symm
  rw [equal, UInt16.xor_self, UInt16.xor_self] at difference
  exact Crc.feed_burst_ne_zero narrow (within_maskBytes same within)
    (mem_bits_maskBytes same differs) difference

/-! ## The three parts of a frame -/

theorem getD_eq_zero_of_within (within : ∀ i, (bits mask)[i]? = some true → first ≤ i ∧ i < first + width)
    {i : Nat} (outside : 8 * i + 8 ≤ first ∨ first + width ≤ 8 * i) : mask.getD i 0 = 0 := by
  apply getD_eq_zero
  intro j small here
  have := within _ here
  omega

theorem covered_eq_self (high : mask.getD 10 0 = 0) (low : mask.getD 11 0 = 0) :
    covered mask = mask := by
  unfold covered
  apply List.ext_getElem
  · simp
  · intro i left right
    rw [List.getElem_set, List.getElem_set]
    rw [List.getD_eq_getElem?_getD] at high low
    split
    · rename_i here
      subst here
      rw [List.getElem?_eq_getElem right] at low
      exact low.symm
    · split
      · rename_i here
        subst here
        rw [List.getElem?_eq_getElem right] at high
        exact high.symm
      · rfl

theorem covered_eq_zeros (zero : ∀ i, i ≠ 10 → i ≠ 11 → mask.getD i 0 = 0) :
    covered mask = List.replicate mask.length 0 := by
  unfold covered
  apply List.ext_getElem
  · simp
  · intro i left right
    rw [List.getElem_set, List.getElem_set, List.getElem_replicate]
    split
    · rfl
    · split
      · rfl
      · rename_i low high
        have byte := zero i (Ne.symm high) (Ne.symm low)
        rw [List.length_set, List.length_set] at left
        rwa [List.getD_eq_getElem _ _ left] at byte

theorem getD_ne_zero {data : Bytes} {i : Nat} (set : (bits data)[i]? = some true) :
    data.getD (i / 8) 0 ≠ 0 := by
  intro zero
  rw [getElem?_bits_iff, zero] at set
  simp at set

theorem word_ne_zero {high low : UInt8} (h : high ≠ 0 ∨ low ≠ 0) : word high low ≠ 0 := by
  intro zero
  have bytes := wordBytes_word high low
  rw [zero] at bytes
  simp only [wordBytes, List.cons.injEq, and_true] at bytes
  rcases h with h | h
  · exact h bytes.1.symm
  · exact h bytes.2.symm

theorem sumField_ne_zero (only : ∀ i, i ≠ 10 → i ≠ 11 → mask.getD i 0 = 0)
    (set : true ∈ bits mask) : sumField mask ≠ 0 := by
  obtain ⟨i, here⟩ := List.getElem?_of_mem set
  have byte := getD_ne_zero here
  apply word_ne_zero
  by_cases high : i / 8 = 10
  · exact Or.inl (high ▸ byte)
  · by_cases low : i / 8 = 11
    · exact Or.inr (low ▸ byte)
    · exact absurd (only _ high low) byte

theorem syndrome_ne_zero_of_burst (narrow : width ≤ 16) (part : InOnePart first width)
    (within : ∀ i : Nat, (bits mask)[i]? = some true → first ≤ i ∧ i < first + width)
    (set : true ∈ bits mask) : syndrome mask ≠ 0 ∧ lengthField mask = 0 := by
  have clear {i : Nat} (outside : 8 * i + 8 ≤ first ∨ first + width ≤ 8 * i) :
      mask.getD i 0 = 0 := getD_eq_zero_of_within within outside
  have none : word 0 0 = 0 := rfl
  unfold InOnePart at part
  constructor
  · unfold syndrome
    by_cases carried : 8 * 10 ≤ first ∧ first + width ≤ 8 * 12
    · have only (i : Nat) (high : i ≠ 10) (low : i ≠ 11) : mask.getD i 0 = 0 :=
        clear (by omega)
      rw [covered_eq_zeros only, Crc.feed_zeros, UInt16.zero_xor]
      exact sumField_ne_zero only set
    · have high : mask.getD 10 0 = 0 := clear (by omega)
      have low : mask.getD 11 0 = 0 := clear (by omega)
      unfold sumField
      rw [covered_eq_self high low, high, low, none, UInt16.xor_zero]
      exact Crc.feed_burst_ne_zero narrow within set
  · unfold lengthField
    rw [clear (by omega), clear (by omega), none]

/-! ## Detection -/

theorem differsWithin_of_differsAt {count : Nat} (h : DiffersAt first count wire damaged) :
    DiffersWithin (8 * first) (8 * count) wire damaged := by
  intro i _ differs
  have place : wire[i / 8]? ≠ damaged[i / 8]? := by
    intro same
    apply differs
    rw [getElem?_bits, getElem?_bits, same]
  have := h _ place
  omega

theorem verify_burst {frame : VerifiedFrame} (checked : verify wire = .ok frame)
    (valid : frame.valid = true) (exact : wire.length = Header.size + (lengthField wire).toNat)
    (same : damaged.length = wire.length) (differs : damaged ≠ wire) (narrow : width ≤ 16)
    (part : InOnePart first width) (within : DiffersWithin first width wire damaged) :
    ∃ other, verify damaged = .ok other ∧ other.valid = false := by
  obtain ⟨shows, spared⟩ := syndrome_ne_zero_of_burst narrow part (within_maskBytes same within)
    (mem_bits_maskBytes same differs)
  obtain ⟨other, read, verdict⟩ :=
    verify_maskBytes checked valid exact (length_maskBytes same.symm).symm spared
  rw [maskBytes_maskBytes same] at read
  refine ⟨other, read, ?_⟩
  rw [← Bool.not_eq_true, verdict]
  exact shows

/-- Damage within sixteen bits in a row of one part of a frame is found. -/
theorem burst_detected {header : Header} {payload : Bytes}
    (fits : payload.length ≤ maxPayload) (assembled : assemble header payload = .ok wire)
    (same : damaged.length = wire.length) (differs : damaged ≠ wire)
    (damage : (∃ first width, width ≤ 16 ∧ InOnePart first width ∧
        DiffersWithin first width wire damaged) ∨
      (∃ i, i ≠ 8 ∧ i ≠ 9 ∧ DiffersAt i 1 wire damaged) ∨
      ∃ i, 12 ≤ i ∧ DiffersAt i 2 wire damaged) :
    ∃ intact other, verify wire = .ok intact ∧ intact.valid = true ∧
      verify damaged = .ok other ∧ other.valid = false := by
  rw [assemble_of_length_le header fits] at assembled
  obtain rfl := Except.ok.inj assembled
  have checked := verify_assembled header [] fits
  rw [List.append_nil] at checked
  have exact : (encode ⟨sealHeader header payload, payload⟩).length = Header.size +
      (lengthField (encode ⟨sealHeader header payload, payload⟩)).toNat := by
    have announced : lengthField (encode ⟨sealHeader header payload, payload⟩) =
        payload.length.toUInt16 := lengthField_encode _ payload
    rw [announced, toNat_length_toUInt16 fits, length_encode]
    rfl
  obtain ⟨first, width, narrow, part, within⟩ : ∃ first width, width ≤ 16 ∧
      InOnePart first width ∧ DiffersWithin first width _ damaged := by
    unfold InOnePart
    rcases damage with burst | ⟨i, high, low, only⟩ | ⟨i, behind, only⟩
    · exact burst
    · exact ⟨8 * i, 8 * 1, by omega, by omega, differsWithin_of_differsAt only⟩
    · exact ⟨8 * i, 8 * 2, by omega, by omega, differsWithin_of_differsAt only⟩
  obtain ⟨other, damage, invalid⟩ := verify_burst checked rfl exact same differs narrow part within
  exact ⟨_, other, checked, rfl, damage, invalid⟩

theorem straddling_burst_detected :
    assemble ⟨1, 2, 16000, 1, 1, 7, 0, 0, 0⟩ [1, 2, 3] =
      .ok [16, 35, 232, 5, 0, 7, 0, 0, 0, 3, 100, 237, 1, 2, 3] ∧
    DiffersWithin 100 16 [16, 35, 232, 5, 0, 7, 0, 0, 0, 3, 100, 237, 1, 2, 3]
      [16, 35, 232, 5, 0, 7, 0, 0, 0, 3, 100, 237, 9, 253, 19] ∧
    ∃ intact other,
      verify [16, 35, 232, 5, 0, 7, 0, 0, 0, 3, 100, 237, 1, 2, 3] = .ok intact ∧
      intact.valid = true ∧
      verify [16, 35, 232, 5, 0, 7, 0, 0, 0, 3, 100, 237, 9, 253, 19] = .ok other ∧
      other.valid = false := by
  have assembled : assemble ⟨1, 2, 16000, 1, 1, 7, 0, 0, 0⟩ [1, 2, 3] =
      .ok [16, 35, 232, 5, 0, 7, 0, 0, 0, 3, 100, 237, 1, 2, 3] := by decide +kernel
  have within : DiffersWithin 100 16 [16, 35, 232, 5, 0, 7, 0, 0, 0, 3, 100, 237, 1, 2, 3]
      [16, 35, 232, 5, 0, 7, 0, 0, 0, 3, 100, 237, 9, 253, 19] := by decide +kernel
  exact ⟨assembled, within, burst_detected (by decide) assembled rfl (by decide)
    (Or.inl ⟨100, 16, by decide, by decide, within⟩)⟩

end VoiceBus.Frame
