import VoiceBus.Proofs.Frame.Shortened

/-!
# How far a frame reaches

A frame says how long it is: twelve bytes and as many as its length announces. Checking asks whether
these bytes are there and looks at none behind them. So a frame is found as soon as it is whole, and
no frame is the beginning of another.
-/

namespace VoiceBus.Frame

/-- The length that the data announces: bytes 8 and 9, the high one first. -/
def announced (data : Bytes) : Nat := (data.getD 8 0).toNat * 256 + (data.getD 9 0).toNat

/-- Where the frame at the front of the data ends. -/
def extent (data : Bytes) : Nat := Header.size + announced data

variable {data wire : Bytes} {frame : VerifiedFrame} {need got : Nat}

theorem toNat_lengthField (data : Bytes) : (lengthField data).toNat = announced data :=
  toNat_word _ _

/-! ## The three verdicts -/

theorem verify_of_length_lt_size (short : data.length < Header.size) :
    verify data = .error (.truncatedHeader Header.size data.length) := by
  unfold verify
  rw [Header.decode_eq_error short]

theorem verify_of_length_lt_extent (enough : Header.size ≤ data.length)
    (short : data.length < extent data) :
    verify data = .error (.truncatedFrame (extent data) data.length) := by
  unfold extent at short ⊢
  rw [← toNat_lengthField] at short ⊢
  exact verify_of_length_lt enough short

theorem verify_of_extent_le (whole : extent data ≤ data.length) :
    ∃ frame, verify data = .ok frame ∧
      frame.payload = (data.drop Header.size).take (announced data) := by
  obtain ⟨header, rest, decoded, parts⟩ :=
    Header.exists_decode (Nat.le_trans (Nat.le_add_right ..) whole)
  have same : header.payloadLength.toNat = announced data := by
    rw [← toNat_lengthField, parts, lengthField_encode]
  unfold extent at whole
  unfold verify
  rw [decoded]
  dsimp only
  rw [same, if_neg (Nat.not_lt.2 whole)]
  exact ⟨_, rfl, rfl⟩

theorem verify_eq_truncatedHeader_iff :
    verify data = .error (.truncatedHeader need got) ↔
      data.length < Header.size ∧ need = Header.size ∧ got = data.length := by
  by_cases short : data.length < Header.size
  · simp [verify_of_length_lt_size short, short, eq_comm]
  by_cases cut : data.length < extent data
  · simp [verify_of_length_lt_extent (Nat.not_lt.1 short) cut, short]
  · obtain ⟨frame, checked, -⟩ := verify_of_extent_le (Nat.not_lt.1 cut)
    simp [checked, short]

theorem verify_eq_truncatedFrame_iff :
    verify data = .error (.truncatedFrame need got) ↔
      (Header.size ≤ data.length ∧ data.length < extent data) ∧
        need = extent data ∧ got = data.length := by
  by_cases short : data.length < Header.size
  · simp [verify_of_length_lt_size short, Nat.not_le.2 short]
  by_cases cut : data.length < extent data
  · simp [verify_of_length_lt_extent (Nat.not_lt.1 short) cut, Nat.not_lt.1 short, cut, eq_comm]
  · obtain ⟨frame, checked, -⟩ := verify_of_extent_le (Nat.not_lt.1 cut)
    simp [checked, cut]

theorem exists_verify_iff : (∃ frame, verify data = .ok frame) ↔ extent data ≤ data.length := by
  constructor
  · rintro ⟨frame, checked⟩
    by_contra cut
    rw [Nat.not_le] at cut
    by_cases short : data.length < Header.size
    · rw [verify_of_length_lt_size short] at checked
      cases checked
    · rw [verify_of_length_lt_extent (Nat.not_lt.1 short) cut] at checked
      cases checked
  · intro whole
    obtain ⟨frame, checked, -⟩ := verify_of_extent_le whole
    exact ⟨frame, checked⟩

/-! ## Nothing behind the frame, nothing less than the frame -/

theorem verify_append (checked : verify data = .ok frame) (rest : Bytes) :
    verify (data ++ rest) = .ok frame := by
  obtain ⟨fits, length, verdict, behind, parts⟩ := verify_eq_ok_iff.1 checked
  exact verify_eq_ok_iff.2 ⟨fits, length, verdict, behind ++ rest, by rw [parts, List.append_assoc]⟩

theorem announced_take {count : Nat} (enough : Header.size ≤ count) :
    announced (data.take count) = announced data := by
  have size : Header.size = 12 := rfl
  unfold announced
  simp only [List.getD_eq_getElem?_getD]
  rw [List.getElem?_take_of_lt (by omega), List.getElem?_take_of_lt (by omega)]

theorem verify_take (whole : extent data ≤ data.length) {count : Nat} (cut : count < extent data) :
    verify (data.take count) = .error (if count < Header.size then
      .truncatedHeader Header.size count else .truncatedFrame (extent data) count) := by
  have length : (data.take count).length = count :=
    List.length_take_of_le (Nat.le_of_lt (Nat.lt_of_lt_of_le cut whole))
  split
  next short =>
    rw [← length] at short
    rw [verify_of_length_lt_size short, length]
  next enough =>
    have same : extent (data.take count) = extent data :=
      congrArg (Header.size + ·) (announced_take (Nat.not_lt.1 enough))
    rw [← length, Nat.not_lt] at enough
    rw [verify_of_length_lt_extent enough (by rw [same, length]; exact cut), same, length]

/-! ## Assembled frames -/

variable {header other : Header} {payload otherPayload : Bytes}

theorem announced_encode (header : Header) (short : payload.length ≤ maxPayload) :
    announced (encode ⟨sealHeader header payload, payload⟩) = payload.length := by
  rw [← toNat_lengthField, encode, lengthField_encode]
  exact toNat_length_toUInt16 short

theorem extent_of_assemble (assembled : assemble header payload = .ok wire) :
    extent wire = Header.size + payload.length ∧ wire.length = extent wire := by
  by_cases short : payload.length ≤ maxPayload
  · rw [assemble_of_length_le header short] at assembled
    obtain rfl := Except.ok.inj assembled
    unfold extent
    rw [announced_encode header short, length_encode]
    exact ⟨rfl, rfl⟩
  · rw [assemble, make_of_lt_length (Nat.lt_of_not_le short)] at assembled
    cases assembled

theorem eq_of_prefix {longer : Bytes} (assembled : assemble header payload = .ok wire)
    (also : assemble other otherPayload = .ok longer) (front : wire <+: longer) :
    wire = longer := by
  obtain ⟨-, length⟩ := extent_of_assemble assembled
  obtain ⟨-, length'⟩ := extent_of_assemble also
  apply front.eq_of_length_le
  by_contra shorter
  have cut := verify_take (Nat.le_of_eq length'.symm) (length' ▸ Nat.lt_of_not_le shorter)
  rw [← List.prefix_iff_eq_take.1 front] at cut
  obtain ⟨frame, checked⟩ := exists_verify_iff.2 (Nat.le_of_eq length.symm)
  rw [cut] at checked
  cases checked

/-! ## A raised length -/

theorem announced_flipBit {bit place : Nat} (enough : Header.size ≤ data.length)
    (inLength : lengthPlace? bit = some place) (clear : (announced data).testBit place = false) :
    announced (flipBit bit data) = announced data + 2 ^ place := by
  have small := Nat.mod_lt bit (by decide : 0 < 8)
  have size : Header.size = 12 := rfl
  have same : data.length = (flipMask data.length bit).length := (length_flipMask _ bit).symm
  rw [← toNat_lengthField, lengthField] at clear
  unfold lengthPlace? at inLength
  unfold announced
  split at inLength
  next high =>
    obtain rfl := Option.some.inj inLength
    rw [testBit_high] at clear
    rw [flipBit_eq_maskBytes, getD_maskBytes same, getD_maskBytes same, getD_flipMask (by omega),
      getD_flipMask (by omega), if_pos high.symm, if_neg (by omega), UInt8.xor_zero,
      toNat_flip_of_clear small clear, Nat.pow_add]
    omega
  next =>
    split at inLength
    next low =>
      obtain rfl := Option.some.inj inLength
      rw [testBit_low _ _ small] at clear
      rw [flipBit_eq_maskBytes, getD_maskBytes same, getD_maskBytes same, getD_flipMask (by omega),
        getD_flipMask (by omega), if_neg (by omega), if_pos low.symm, UInt8.xor_zero,
        toNat_flip_of_clear small clear, Nat.add_assoc]
    next => cases inLength

theorem verify_raised {bit place : Nat} (assembled : assemble header payload = .ok wire)
    (inLength : lengthPlace? bit = some place) (clear : payload.length.testBit place = false) :
    verify (flipBit bit wire) =
      .error (.truncatedFrame (Header.size + payload.length + 2 ^ place) wire.length) := by
  obtain ⟨ends, length⟩ := extent_of_assemble assembled
  have enough : Header.size ≤ wire.length := by rw [length, ends]; exact Nat.le_add_right ..
  have announces : announced wire = payload.length := Nat.add_left_cancel ends
  have raised := announced_flipBit enough inLength (announces ▸ clear)
  have further : extent (flipBit bit wire) = extent wire + 2 ^ place := by
    rw [extent, raised, ← Nat.add_assoc]
    rfl
  have weight := Nat.two_pow_pos place
  rw [verify_of_length_lt_extent (by rwa [length_flipBit])
    (by rw [length_flipBit, further, length]; omega), further, length_flipBit, ends]

/-! ## All of it -/

/-- Data is too short for a header, too short for what it announces, or a frame. -/
theorem verdict_by_extent :
    (∀ data need got, verify data = .error (.truncatedHeader need got) ↔
      data.length < 12 ∧ need = 12 ∧ got = data.length) ∧
    (∀ data need got, verify data = .error (.truncatedFrame need got) ↔
      (12 ≤ data.length ∧ data.length < 12 + announced data) ∧
        need = 12 + announced data ∧ got = data.length) ∧
    (∀ data, 12 + announced data ≤ data.length → ∃ frame, verify data = .ok frame ∧
      frame.payload = (data.drop 12).take (announced data) ∧
      frame.payload.length = announced data) ∧
    (∀ data frame, verify data = .ok frame → (∀ rest, verify (data ++ rest) = .ok frame) ∧
      ∀ count < 12 + announced data, verify (data.take count) = .error (if count < 12 then
        .truncatedHeader 12 count else .truncatedFrame (12 + announced data) count)) ∧
    (∀ header payload other otherPayload wire longer, assemble header payload = .ok wire →
      assemble other otherPayload = .ok longer → wire <+: longer → wire = longer) ∧
    (∀ header payload wire bit place, assemble header payload = .ok wire →
      lengthPlace? bit = some place → payload.length.testBit place = false →
      verify (flipBit bit wire) =
        .error (.truncatedFrame (12 + payload.length + 2 ^ place) wire.length)) := by
  refine ⟨fun _ _ _ => verify_eq_truncatedHeader_iff, fun _ _ _ => verify_eq_truncatedFrame_iff,
    ?_, ?_, fun _ _ _ _ _ _ => eq_of_prefix, fun _ _ _ _ _ => verify_raised⟩
  · intro data whole
    obtain ⟨frame, checked, payload⟩ := verify_of_extent_le whole
    refine ⟨frame, checked, payload, ?_⟩
    rw [payload, List.length_take_of_le]
    rw [List.length_drop]
    exact Nat.le_sub_of_add_le' whole
  · intro data frame checked
    have whole := exists_verify_iff.1 ⟨frame, checked⟩
    exact ⟨verify_append checked, fun count cut => verify_take whole cut⟩

theorem brittleWire_judged :
    ∃ frame, verify brittleWire = .ok frame ∧ frame.payload = [4, 192] ∧
      verify (brittleWire ++ [255]) = .ok frame ∧
      verify (brittleWire.take 13) = .error (.truncatedFrame 14 13) ∧
      verify (brittleWire.take 11) = .error (.truncatedHeader 12 11) ∧
      (∀ wire, assemble Reference.header [4, 192] = .ok wire → brittleWire <+: wire →
        brittleWire = wire) ∧
      verify (flipBit 71 brittleWire) = .error (.truncatedFrame 32782 14) := by
  have assembled : assemble Reference.header [4, 192] = .ok brittleWire := by decide +kernel
  obtain ⟨-, -, whole, front, alone, raised⟩ := verdict_by_extent
  obtain ⟨frame, checked, payload, -⟩ := whole brittleWire (by decide)
  obtain ⟨longer, shorter⟩ := front brittleWire frame checked
  exact ⟨frame, checked, payload, longer [255], shorter 13 (by decide), shorter 11 (by decide),
    fun wire also => alone _ _ _ _ _ wire assembled also,
    raised _ _ _ 71 15 assembled rfl (by decide)⟩

end VoiceBus.Frame
