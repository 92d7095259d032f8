import VoiceBus.Proofs.Crc.Powers
import VoiceBus.Proofs.Frame.Flip
import VoiceBus.Reference

/-!
# Flips anywhere in a frame

Every flipped bit adds a power to the syndrome. The bits of the checksum add the lowest powers,
whatever follows them in the frame. An odd number of powers never cancels out, and two of them only
do when they are a multiple of 32767 places apart.
-/

namespace VoiceBus

/-- The bytes with these bits inverted one after the other. -/
def flipBits (flips : List Nat) (data : Bytes) : Bytes := Edit.applyAll data (flips.map .flip)

theorem flipBits_nil (data : Bytes) : flipBits [] data = data := rfl

theorem flipBits_cons (bit : Nat) (rest : List Nat) (data : Bytes) :
    flipBits (bit :: rest) data = flipBits rest (flipBit bit data) := rfl

@[simp] theorem length_flipBits (flips : List Nat) (data : Bytes) :
    (flipBits flips data).length = data.length := by
  induction flips generalizing data with
  | nil => rfl
  | cons bit rest ih => rw [flipBits_cons, ih, length_flipBit]

namespace Frame

/-- The bit is one of a frame of so many bytes, and none of the announced length. -/
def SparedBit (length bit : Nat) : Prop := bit < 8 * length ∧ bit / 8 ≠ 8 ∧ bit / 8 ≠ 9

instance (length bit : Nat) : Decidable (SparedBit length bit) :=
  inferInstanceAs (Decidable (_ ∧ _))

/-- The power that a flipped bit adds to the syndrome. -/
def exponent (length bit : Nat) : Nat :=
  if bit / 8 = 10 ∨ bit / 8 = 11 then 8 * (11 - bit / 8) + bit % 8
  else 8 * (length + 1 - bit / 8) + bit % 8

variable {data mask : Bytes} {length bit : Nat} {flips : List Nat}

/-! ## Masks of flips -/

theorem flipBit_maskBytes (same : data.length = mask.length) (bit : Nat) :
    flipBit bit (maskBytes data mask) = maskBytes data (flipBit bit mask) := by
  rw [flipBit_eq_maskBytes, flipBit_eq_maskBytes, length_maskBytes same, same]
  unfold maskBytes
  apply List.ext_getElem
  · simp [same]
  · intro i _ _
    simp only [List.getElem_zipWith, UInt8.xor_assoc]

theorem flipBits_maskBytes (same : data.length = mask.length) (flips : List Nat) :
    flipBits flips (maskBytes data mask) = maskBytes data (flipBits flips mask) := by
  induction flips generalizing mask with
  | nil => rfl
  | cons bit rest ih =>
    rw [flipBits_cons, flipBit_maskBytes same, ih (by rw [length_flipBit, same]), flipBits_cons]

theorem maskBytes_zeros (data : Bytes) : maskBytes data (List.replicate data.length 0) = data := by
  unfold maskBytes
  apply List.ext_getElem
  · simp
  · intro i _ _
    rw [List.getElem_zipWith, List.getElem_replicate, UInt8.xor_zero]

theorem flipBits_eq_maskBytes (flips : List Nat) (data : Bytes) :
    flipBits flips data = maskBytes data (flipBits flips (List.replicate data.length 0)) := by
  rw [← flipBits_maskBytes (by simp), maskBytes_zeros]

/-! ## What flips do to the syndrome -/

theorem syndrome_maskBytes (same : data.length = mask.length) :
    syndrome (maskBytes data mask) = syndrome data ^^^ syndrome mask := by
  have inside : (covered data).length = (covered mask).length := by
    rw [length_covered, length_covered, same]
  have parts := Crc.feed_maskBytes 0 0 inside
  rw [UInt16.xor_self] at parts
  unfold syndrome
  rw [covered_maskBytes same, sumField_maskBytes same, parts]
  ac_rfl

theorem feed_zeros_eq_shift (register : UInt16) (count : Nat) :
    Crc.feed register (List.replicate count 0) = Crc.shift^[8 * count] register := by
  induction count generalizing register with
  | zero => rfl
  | succ count ih =>
    have entered : Crc.feedByte register 0 = Crc.shift^[8] register := by
      have nothing : (0 : UInt8).toUInt16 <<< 8 = 0 := rfl
      unfold Crc.feedByte
      rw [nothing, UInt16.xor_zero]
      rfl
    rw [Nat.mul_succ, Function.iterate_add_apply, ← entered, ← ih]
    rfl

theorem flipMask_eq_append (inside : bit < 8 * length) :
    flipMask length bit = (List.replicate (bit / 8) 0 : Bytes) ++
      1 <<< UInt8.ofNat (bit % 8) :: List.replicate (length - 1 - bit / 8) 0 := by
  unfold flipMask
  rw [List.set_eq_take_append_cons_drop, List.length_replicate, if_pos (by omega),
    List.take_replicate, List.drop_replicate]
  have before : min (bit / 8) length = bit / 8 := by omega
  have after : length - (bit / 8 + 1) = length - 1 - bit / 8 := by omega
  rw [before, after]

theorem feedByte_one_shiftLeft {j : Nat} (h : j < 8) :
    Crc.feedByte 0 (1 <<< UInt8.ofNat j) = Crc.power (16 + j) := by
  revert j
  decide +kernel

theorem feed_flipMask (inside : bit < 8 * length) :
    Crc.feed 0 (flipMask length bit) = Crc.power (8 * (length + 1 - bit / 8) + bit % 8) := by
  have places : 8 * (length + 1 - bit / 8) + bit % 8 =
      8 * (length - 1 - bit / 8) + (16 + bit % 8) := by omega
  rw [flipMask_eq_append inside, Crc.feed_append, Crc.feed_zeros]
  change Crc.feed (Crc.feedByte 0 (1 <<< UInt8.ofNat (bit % 8))) _ = _
  rw [feed_zeros_eq_shift, feedByte_one_shiftLeft (Nat.mod_lt bit (by decide)), places]
  exact (Function.iterate_add_apply ..).symm

theorem word_one_shiftLeft {j : Nat} (h : j < 8) :
    word (1 <<< UInt8.ofNat j) 0 = Crc.power (8 + j) ∧
      word 0 (1 <<< UInt8.ofNat j) = Crc.power j := by
  revert j
  decide +kernel

theorem syndrome_flipMask (inside : bit < 8 * length) :
    syndrome (flipMask length bit) = Crc.power (exponent length bit) := by
  have byte := getD_flipMask inside
  have none : word 0 0 = 0 := rfl
  obtain ⟨high, low⟩ := word_one_shiftLeft (Nat.mod_lt bit (by decide : 0 < 8))
  unfold syndrome exponent
  split
  · rename_i carried
    have zero (i : Nat) (notHigh : i ≠ 10) (notLow : i ≠ 11) :
        (flipMask length bit).getD i 0 = 0 := by
      rw [byte, if_neg (by omega)]
    rw [covered_eq_zeros zero, Crc.feed_zeros, UInt16.zero_xor]
    unfold sumField
    rcases carried with here | here
    · rw [byte, byte, if_pos here.symm, if_neg (by omega), high, here]
    · rw [byte, byte, if_pos here.symm, if_neg (by omega), low, here]
      congr 1
      omega
  · rename_i elsewhere
    have highByte : (flipMask length bit).getD 10 0 = 0 := by rw [byte, if_neg (by omega)]
    have lowByte : (flipMask length bit).getD 11 0 = 0 := by rw [byte, if_neg (by omega)]
    unfold sumField
    rw [covered_eq_self highByte lowByte, highByte, lowByte, none, UInt16.xor_zero,
      feed_flipMask inside]

theorem syndrome_flipBit (inside : bit < 8 * mask.length) :
    syndrome (flipBit bit mask) = syndrome mask ^^^ Crc.power (exponent mask.length bit) := by
  rw [flipBit_eq_maskBytes, syndrome_maskBytes (length_flipMask _ bit).symm,
    syndrome_flipMask inside]

theorem lengthField_flipBit (spared : SparedBit mask.length bit) :
    lengthField (flipBit bit mask) = lengthField mask := by
  obtain ⟨inside, high, low⟩ := spared
  have byte := getD_flipMask inside
  have zero : lengthField (flipMask mask.length bit) = 0 := by
    unfold lengthField
    rw [byte, byte, if_neg (Ne.symm high), if_neg (Ne.symm low)]
    rfl
  rw [flipBit_eq_maskBytes, lengthField_maskBytes (length_flipMask _ bit).symm, zero,
    UInt16.xor_zero]

theorem getD_zeros (length i : Nat) : (List.replicate length (0 : UInt8)).getD i 0 = 0 := by
  rw [List.getD_eq_getElem?_getD, List.getElem?_replicate]
  split <;> rfl

theorem syndrome_zeros (length : Nat) : syndrome (List.replicate length 0) = 0 := by
  unfold syndrome sumField
  rw [covered_eq_self (getD_zeros ..) (getD_zeros ..), Crc.feed_zeros, getD_zeros, getD_zeros]
  rfl

theorem lengthField_zeros (length : Nat) : lengthField (List.replicate length 0) = 0 := by
  unfold lengthField
  rw [getD_zeros, getD_zeros]
  rfl

theorem lengthField_flipBits (spared : ∀ bit ∈ flips, SparedBit mask.length bit) :
    lengthField (flipBits flips mask) = lengthField mask := by
  induction flips generalizing mask with
  | nil => rfl
  | cons bit rest ih =>
    rw [List.forall_mem_cons] at spared
    rw [flipBits_cons, ih (by rw [length_flipBit]; exact spared.2), lengthField_flipBit spared.1]

theorem verify_flipBits (header : Header) {payload : Bytes} (fits : payload.length ≤ maxPayload) :
    ∃ wire, assemble header payload = .ok wire ∧ wire.length = Header.size + payload.length ∧
      ∀ flips : List Nat, (∀ bit ∈ flips, SparedBit wire.length bit) →
        ∃ other, verify (flipBits flips wire) = .ok other ∧
          (other.valid = true ↔ syndrome (flipBits flips (List.replicate wire.length 0)) = 0) := by
  have checked := verify_assembled header [] fits
  rw [List.append_nil] at checked
  have announced : lengthField (encode ⟨sealHeader header payload, payload⟩) =
      payload.length.toUInt16 := lengthField_encode _ payload
  have length : (encode ⟨sealHeader header payload, payload⟩).length =
      Header.size + payload.length := length_encode _
  refine ⟨_, assemble_of_length_le header fits, length, ?_⟩
  intro flips spared
  rw [flipBits_eq_maskBytes]
  apply verify_maskBytes checked rfl
  · rw [announced, toNat_length_toUInt16 fits, length]
  · rw [length_flipBits, List.length_replicate]
  · rw [lengthField_flipBits (by rwa [List.length_replicate]), lengthField_zeros]

/-! ## An odd number of flips -/

theorem parity_flipBits (inside : ∀ bit ∈ flips, bit < 8 * mask.length) :
    Crc.parity (syndrome (flipBits flips mask)) =
      Crc.parity (syndrome mask) ^^^ if flips.length % 2 = 1 then 1 else 0 := by
  induction flips generalizing mask with
  | nil => exact UInt16.xor_zero.symm
  | cons bit rest ih =>
    rw [List.forall_mem_cons] at inside
    rw [flipBits_cons, ih (by rw [length_flipBit]; exact inside.2), syndrome_flipBit inside.1,
      Crc.parity_xor, Crc.parity_power, List.length_cons, UInt16.xor_assoc]
    congr 1
    rcases Nat.mod_two_eq_zero_or_one rest.length with even | odd
    · rw [if_neg (by omega), if_pos (by omega)]
      rfl
    · rw [if_pos odd, if_neg (by omega)]
      rfl

/-- An odd number of flips anywhere but in the announced length is found. -/
theorem odd_flips_detected (header : Header) {payload : Bytes}
    (fits : payload.length ≤ maxPayload) :
    ∃ wire, assemble header payload = .ok wire ∧ ∀ flips : List Nat,
      (∀ bit ∈ flips, SparedBit wire.length bit) → flips.length % 2 = 1 →
      ∃ other, verify (flipBits flips wire) = .ok other ∧ other.valid = false := by
  obtain ⟨wire, assembled, -, checks⟩ := verify_flipBits header fits
  refine ⟨wire, assembled, ?_⟩
  intro flips spared odd
  obtain ⟨other, read, verdict⟩ := checks flips spared
  refine ⟨other, read, ?_⟩
  rw [← Bool.not_eq_true, verdict]
  intro cancelled
  have parity : Crc.parity (syndrome (flipBits flips (List.replicate wire.length 0))) = _ :=
    parity_flipBits (by rw [List.length_replicate]; exact fun bit member => (spared bit member).1)
  rw [cancelled, syndrome_zeros, if_pos odd] at parity
  exact absurd parity (by decide +kernel)

theorem three_flips_detected :
    assemble ⟨1, 2, 16000, 1, 1, 7, 0, 0, 0⟩ [1, 2, 3] =
      .ok [16, 35, 232, 5, 0, 7, 0, 0, 0, 3, 100, 237, 1, 2, 3] ∧
    (∀ bit ∈ [7, 88, 97], SparedBit 15 bit) ∧
    ∃ other, verify [144, 35, 232, 5, 0, 7, 0, 0, 0, 3, 100, 236, 3, 2, 3] = .ok other ∧
      other.valid = false := by
  have known : assemble ⟨1, 2, 16000, 1, 1, 7, 0, 0, 0⟩ [1, 2, 3] =
      .ok [16, 35, 232, 5, 0, 7, 0, 0, 0, 3, 100, 237, 1, 2, 3] := by decide +kernel
  obtain ⟨wire, assembled, found⟩ := odd_flips_detected ⟨1, 2, 16000, 1, 1, 7, 0, 0, 0⟩
    (show [1, 2, 3].length ≤ maxPayload by decide)
  obtain rfl := Except.ok.inj (known.symm.trans assembled)
  exact ⟨known, by decide, found [7, 88, 97] (by decide) (by decide)⟩

/-! ## Two flips -/

theorem syndrome_two_flips {first second : Nat} (inFrame : first < 8 * length)
    (inFrame' : second < 8 * length) :
    syndrome (flipBits [first, second] (List.replicate length 0)) = 0 ↔
      exponent length first % 32767 = exponent length second % 32767 := by
  have mask : (List.replicate length (0 : UInt8)).length = length := List.length_replicate
  have flipped : (flipBit first (List.replicate length 0)).length = length := by
    rw [length_flipBit, mask]
  have once : syndrome (flipBit first (List.replicate length 0)) =
      Crc.power (exponent length first) := by
    rw [syndrome_flipBit (by rwa [mask]), syndrome_zeros, UInt16.zero_xor, mask]
  have twice : syndrome (flipBit second (flipBit first (List.replicate length 0))) =
      Crc.power (exponent length first) ^^^ Crc.power (exponent length second) := by
    rw [syndrome_flipBit (by rwa [flipped]), once, flipped]
  rw [flipBits_cons, flipBits_cons, flipBits_nil, twice, UInt16.xor_eq_zero_iff,
    Crc.power_eq_power_iff]

theorem exponent_lt {length bit : Nat} (inside : bit < 8 * length) :
    exponent length bit < 8 * length + 16 := by
  unfold exponent
  split <;> omega

theorem eq_of_exponent_eq {first second : Nat} (inFrame : first < 8 * length)
    (inFrame' : second < 8 * length) (same : exponent length first = exponent length second) :
    first = second := by
  unfold exponent at same
  split at same <;> split at same <;> omega

/-- Two flips anywhere but in the length are found behind at most 4081 bytes of payload. -/
theorem two_flips_detected (header : Header) (payload : Bytes) :
    (payload.length ≤ 4081 → ∃ wire, assemble header payload = .ok wire ∧
      ∀ first second, SparedBit wire.length first → SparedBit wire.length second →
        first ≠ second →
        ∃ other, verify (flipBits [first, second] wire) = .ok other ∧ other.valid = false) ∧
    (payload.length = 4082 → ∃ wire other, assemble header payload = .ok wire ∧
      verify (flipBits [7, 88] wire) = .ok other ∧ other.valid = true) := by
  have whole : Header.size = 12 := rfl
  constructor
  · intro short
    obtain ⟨wire, assembled, length, checks⟩ :=
      verify_flipBits header (Nat.le_trans short (by decide))
    refine ⟨wire, assembled, ?_⟩
    intro first second spared spared' distinct
    obtain ⟨other, read, verdict⟩ := checks [first, second] (by simp [spared, spared'])
    refine ⟨other, read, ?_⟩
    have below := exponent_lt spared.1
    have below' := exponent_lt spared'.1
    rw [← Bool.not_eq_true, verdict, syndrome_two_flips spared.1 spared'.1,
      Nat.mod_eq_of_lt (by omega), Nat.mod_eq_of_lt (by omega)]
    exact mt (eq_of_exponent_eq spared.1 spared'.1) distinct
  · intro long
    obtain ⟨wire, assembled, length, checks⟩ :=
      verify_flipBits header (show payload.length ≤ maxPayload from long ▸ by decide)
    have spared : SparedBit wire.length 7 := ⟨by omega, by decide, by decide⟩
    have spared' : SparedBit wire.length 88 := ⟨by omega, by decide, by decide⟩
    obtain ⟨other, read, verdict⟩ := checks [7, 88] (by simp [spared, spared'])
    refine ⟨wire, other, assembled, read, ?_⟩
    rw [verdict, syndrome_two_flips spared.1 spared'.1, length, long]
    rfl

theorem outermost_flips :
    (∃ wire other, assemble ⟨1, 2, 16000, 1, 1, 7, 0, 0, 0⟩ [1, 2, 3] = .ok wire ∧
      verify (flipBits [7, 88] wire) = .ok other ∧ other.valid = false) ∧
    ∃ wire other, assemble ⟨1, 2, 16000, 1, 1, 7, 0, 0, 0⟩ (List.replicate 4082 170) = .ok wire ∧
      verify (flipBits [7, 88] wire) = .ok other ∧ other.valid = true := by
  obtain ⟨found, -⟩ := two_flips_detected ⟨1, 2, 16000, 1, 1, 7, 0, 0, 0⟩ [1, 2, 3]
  obtain ⟨wire, assembled, found⟩ := found (by decide)
  have length : wire.length = 15 := by
    have known : assemble ⟨1, 2, 16000, 1, 1, 7, 0, 0, 0⟩ [1, 2, 3] =
        .ok [16, 35, 232, 5, 0, 7, 0, 0, 0, 3, 100, 237, 1, 2, 3] := by decide +kernel
    rw [← Except.ok.inj (known.symm.trans assembled)]
    rfl
  obtain ⟨other, read, invalid⟩ :=
    found 7 88 (length.symm ▸ by decide) (length.symm ▸ by decide) (by decide)
  exact ⟨⟨wire, other, assembled, read, invalid⟩,
    (two_flips_detected _ (List.replicate 4082 170)).2 List.length_replicate⟩

end Frame
end VoiceBus
