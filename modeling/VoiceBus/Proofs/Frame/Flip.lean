import VoiceBus.Fault
import VoiceBus.Proofs.Frame.Burst

/-!
# One bit flipped

A flipped bit outside the announced length makes the checksum wrong. A bit of the length that is
raised announces more than there is. Only a bit of the length that is cleared leaves a shorter
frame, whose checksum nothing is said about here.
-/

namespace VoiceBus.Frame

def flipMask (length bit : Nat) : Bytes :=
  (List.replicate length 0).set (bit / 8) (1 <<< UInt8.ofNat (bit % 8))

/-- A flip of this bit clears no bit of the announced length. -/
def SparesLength (wire : Bytes) (bit : Nat) : Prop :=
  bit / 8 = 8 ∨ bit / 8 = 9 → (wire.getD (bit / 8) 0).toNat.testBit (bit % 8) = false

instance (wire : Bytes) (bit : Nat) : Decidable (SparesLength wire bit) :=
  inferInstanceAs (Decidable (_ → _))

variable {wire : Bytes} {length bit : Nat}

@[simp] theorem length_flipMask (length bit : Nat) : (flipMask length bit).length = length := by
  simp [flipMask]

theorem flipBit_eq_maskBytes (bit : Nat) (data : Bytes) :
    flipBit bit data = maskBytes data (flipMask data.length bit) := by
  unfold flipBit maskBytes flipMask
  apply List.ext_getElem
  · simp
  · intro i left right
    simp only [List.getElem_modify, List.getElem_zipWith, List.getElem_set, List.getElem_replicate]
    split
    · rfl
    · exact (UInt8.xor_zero).symm

theorem getD_flipMask (h : bit < 8 * length) (i : Nat) :
    (flipMask length bit).getD i 0 = if i = bit / 8 then 1 <<< UInt8.ofNat (bit % 8) else 0 := by
  have inside : bit / 8 < length := by omega
  unfold flipMask
  rw [List.getD_eq_getElem?_getD, List.getElem?_set, List.length_replicate]
  by_cases here : i = bit / 8
  · rw [if_pos here.symm, if_pos inside, if_pos here]
    rfl
  · rw [if_neg (Ne.symm here), if_neg here, List.getElem?_replicate]
    split <;> rfl

theorem toNat_one_shiftLeft {j : Nat} (h : j < 8) : (1 <<< UInt8.ofNat j : UInt8).toNat = 2 ^ j := by
  revert j
  decide

/-! ## Outside the length -/

theorem getElem?_bits_flipMask (h : bit < 8 * length) (i : Nat) :
    (bits (flipMask length bit))[i]? = some true ↔ i = 8 * (bit / 8) + (7 - bit % 8) := by
  rw [getElem?_bits_iff, getD_flipMask h]
  split
  · rw [toNat_one_shiftLeft (Nat.mod_lt bit (by decide)), Nat.testBit_two_pow, decide_eq_true_eq]
    omega
  · simp
    omega

theorem verify_flipBit {frame : VerifiedFrame} (checked : verify wire = .ok frame)
    (valid : frame.valid = true) (exact : wire.length = Header.size + (lengthField wire).toNat)
    (h : bit < 8 * wire.length) (outside : ¬ (bit / 8 = 8 ∨ bit / 8 = 9)) :
    ∃ other, verify (flipBit bit wire) = .ok other ∧ other.valid = false := by
  have part : InOnePart (8 * (bit / 8) + (7 - bit % 8)) 1 := by
    unfold InOnePart
    omega
  obtain ⟨shows, spared⟩ := syndrome_ne_zero_of_burst (by decide) part
    (fun i set => by rw [getElem?_bits_flipMask h] at set; omega)
    (List.mem_of_getElem? ((getElem?_bits_flipMask h _).2 rfl))
  obtain ⟨other, damaged, verdict⟩ :=
    verify_maskBytes checked valid exact (length_flipMask _ bit).symm spared
  rw [flipBit_eq_maskBytes]
  refine ⟨other, damaged, ?_⟩
  rw [← Bool.not_eq_true, verdict]
  exact shows

/-! ## In the length -/

theorem toNat_flip (byte : UInt8) {j : Nat} (h : j < 8) :
    (byte ^^^ 1 <<< UInt8.ofNat j).toNat =
      if byte.toNat.testBit j then byte.toNat - 2 ^ j else byte.toNat + 2 ^ j := by
  have all : ∀ x < 256, ∀ j < 8, x ^^^ 2 ^ j = if x.testBit j then x - 2 ^ j else x + 2 ^ j := by
    decide +kernel
  rw [UInt8.toNat_xor, toNat_one_shiftLeft h]
  exact all byte.toNat byte.toNat_lt j h

theorem toNat_flip_of_clear {byte : UInt8} {j : Nat} (h : j < 8)
    (clear : byte.toNat.testBit j = false) :
    (byte ^^^ 1 <<< UInt8.ofNat j).toNat = byte.toNat + 2 ^ j := by
  rw [toNat_flip byte h, clear, if_neg Bool.false_ne_true]

theorem toNat_flip_add {byte : UInt8} {j : Nat} (h : j < 8) (set : byte.toNat.testBit j = true) :
    (byte ^^^ 1 <<< UInt8.ofNat j).toNat + 2 ^ j = byte.toNat := by
  rw [toNat_flip byte h, if_pos set, Nat.sub_add_cancel (Nat.ge_two_pow_of_testBit set)]

theorem verify_flipBit_raised (exact : wire.length = Header.size + (lengthField wire).toNat)
    (inLength : bit / 8 = 8 ∨ bit / 8 = 9)
    (clear : (wire.getD (bit / 8) 0).toNat.testBit (bit % 8) = false) :
    ∃ error, verify (flipBit bit wire) = .error error := by
  have inside : bit < 8 * wire.length := by
    have whole : Header.size = 12 := rfl
    omega
  have same : wire.length = (flipMask wire.length bit).length := (length_flipMask _ bit).symm
  have raised := toNat_flip_of_clear (Nat.mod_lt bit (by decide : 0 < 8)) clear
  have weight := Nat.two_pow_pos (bit % 8)
  have more : (lengthField wire).toNat < (lengthField (flipBit bit wire)).toNat := by
    unfold lengthField
    rw [flipBit_eq_maskBytes, getD_maskBytes same, getD_maskBytes same, getD_flipMask inside,
      getD_flipMask inside, toNat_word, toNat_word]
    rcases inLength with high | low
    · rw [high] at raised
      rw [if_pos high.symm, if_neg (by omega), UInt8.xor_zero]
      omega
    · rw [low] at raised
      rw [if_pos low.symm, if_neg (by omega), UInt8.xor_zero]
      omega
  exact ⟨_, verify_of_length_lt (by rw [length_flipBit]; omega) (by rw [length_flipBit]; omega)⟩

theorem verify_flipBit_spared {frame : VerifiedFrame} (checked : verify wire = .ok frame)
    (valid : frame.valid = true) (exact : wire.length = Header.size + (lengthField wire).toNat)
    (h : bit < 8 * wire.length) (spared : SparesLength wire bit) :
    (∃ other, verify (flipBit bit wire) = .ok other ∧ other.valid = false) ∨
      ∃ error, verify (flipBit bit wire) = .error error := by
  by_cases inLength : bit / 8 = 8 ∨ bit / 8 = 9
  · exact Or.inr (verify_flipBit_raised exact inLength (spared inLength))
  · exact Or.inl (verify_flipBit checked valid exact h inLength)

end VoiceBus.Frame
