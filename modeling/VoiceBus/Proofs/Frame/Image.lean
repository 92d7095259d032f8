import VoiceBus.Frame.Verify
import VoiceBus.Proofs.Header.Codec

/-! # What checking accepts

Checking accepts the bytes of assembled frames, with anything behind them, and no others. So the
bytes of a frame give back all that sealing kept of its header.
-/

namespace VoiceBus.Frame

/-! ## Checksums and sealing -/

theorem toNat_length_toUInt16 {data : Bytes} (h : data.length ≤ maxPayload) :
    data.length.toUInt16.toNat = data.length := by
  simp only [maxPayload] at h
  rw [Nat.toUInt16_eq, UInt16.toNat_ofNat', Nat.mod_eq_of_lt (by omega)]

theorem length_le_of_toNat {header : Header} {payload : Bytes}
    (h : header.payloadLength.toNat = payload.length) : payload.length ≤ maxPayload := by
  have := header.payloadLength.toNat_lt
  simp only [maxPayload]
  omega

@[simp] theorem checksum_truncate (header : Header) (payload : Bytes) :
    checksum header.truncate payload = checksum header payload := by
  have same := Header.encode_truncate { header with checksum := 0 }
  simp only [checksum, Header.encodeUnsummed]
  rw [← same]
  rfl

theorem checksum_withChecksum (header : Header) (payload : Bytes) (sum : UInt16) :
    checksum { header with checksum := sum } payload = checksum header payload := rfl

theorem truncate_sealHeader (header : Header) (payload : Bytes) :
    (sealHeader header payload).truncate = sealHeader header.truncate payload := by
  let measured : Header := { header with payloadLength := payload.length.toUInt16 }
  have same : checksum measured.truncate payload = checksum measured payload :=
    checksum_truncate measured payload
  calc (sealHeader header payload).truncate
    _ = { measured.truncate with checksum := checksum measured payload } := by
      simp only [sealHeader, Header.truncate, measured]
    _ = { measured.truncate with checksum := checksum measured.truncate payload } := by rw [same]
    _ = sealHeader header.truncate payload := by
      simp only [sealHeader, Header.truncate, measured]

theorem checksum_sealHeader (header : Header) (payload : Bytes) :
    checksum (sealHeader header payload) payload = (sealHeader header payload).checksum := by
  simp only [sealHeader]
  exact checksum_withChecksum { header with payloadLength := payload.length.toUInt16 } payload _

theorem sealHeader_eq_self {header : Header} {payload : Bytes}
    (length : header.payloadLength.toNat = payload.length)
    (sum : checksum header payload = header.checksum) : sealHeader header payload = header := by
  have same : payload.length.toUInt16 = header.payloadLength := by
    rw [← length, Nat.toUInt16_eq, UInt16.ofNat_toNat]
  simp only [sealHeader, same, sum]

theorem assemble_of_length_le (header : Header) {payload : Bytes}
    (h : payload.length ≤ maxPayload) :
    assemble header payload = .ok (encode ⟨sealHeader header payload, payload⟩) := by
  rw [assemble, make_of_length_le h]
  rfl

/-! ## Checking -/

theorem verify_encode_append (frame : Frame) (rest : Bytes)
    (length : frame.header.payloadLength.toNat = frame.payload.length) :
    verify (frame.encode ++ rest) =
      .ok ⟨frame.header.truncate, frame.payload,
        checksum frame.header frame.payload = frame.header.checksum⟩ := by
  have decoded := Header.decode_encode frame.header (frame.payload ++ rest)
  have announced : frame.header.truncate.payloadLength = frame.header.payloadLength := rfl
  have enough : ¬ (frame.encode ++ rest).length < Header.size + frame.payload.length := by
    simp [size]
  have payload : ((frame.encode ++ rest).drop Header.size).take frame.payload.length =
      frame.payload := by
    rw [encode, List.append_assoc, List.drop_left' (Header.length_encode _), List.take_left]
  unfold verify
  rw [encode, List.append_assoc, decoded]
  simp only [announced, length]
  rw [← List.append_assoc, ← encode, if_neg enough, payload, checksum_truncate]
  rfl

/-- What checking hands on fits, announces its own length, and stands at the front. -/
theorem verify_eq_ok_iff {data : Bytes} {frame : VerifiedFrame} :
    verify data = .ok frame ↔
      frame.header.truncate = frame.header ∧
      frame.header.payloadLength.toNat = frame.payload.length ∧
      (frame.valid = true ↔ frame.computedChecksum = frame.header.checksum) ∧
      ∃ rest, data = frame.toFrame.encode ++ rest := by
  constructor
  · intro h
    unfold verify at h
    split at h
    · cases h
    · rename_i header decoded
      obtain ⟨fits, rest, rfl⟩ := Header.decode_eq_ok_iff.1 decoded
      dsimp only at h
      split at h
      · cases h
      · rename_i enough
        simp only [List.length_append, Header.length_encode, Nat.not_lt,
          Nat.add_le_add_iff_left] at enough
        obtain rfl := Except.ok.inj h
        rw [List.drop_left' (Header.length_encode _)]
        refine ⟨fits, ?_, ?_, rest.drop header.payloadLength.toNat, ?_⟩
        · rw [List.length_take, Nat.min_eq_left enough]
        · simp only [decide_eq_true_eq, VerifiedFrame.computedChecksum]
        · rw [VerifiedFrame.toFrame, encode, List.append_assoc, List.take_append_drop]
  · rintro ⟨fits, length, verdict, rest, rfl⟩
    rcases frame with ⟨header, payload, valid⟩
    have same : decide (checksum header payload = header.checksum) = valid :=
      Bool.eq_iff_iff.2 (decide_eq_true_iff.trans verdict.symm)
    have checked := verify_encode_append ⟨header, payload⟩ rest length
    simp only [same] at checked
    rw [VerifiedFrame.toFrame, checked, fits]

/-! ## Assembled frames -/

/-- What sealing keeps of a header, as a frame carries it. -/
def kept (header : Header) : Header :=
  { header.truncate with payloadLength := 0, checksum := 0 }

theorem kept_sealHeader (header : Header) (payload : Bytes) :
    kept (sealHeader header payload) = kept header := by
  simp only [kept, sealHeader, Header.truncate]

theorem sealHeader_kept (header : Header) (payload : Bytes) :
    sealHeader (kept header) payload = sealHeader header.truncate payload := by
  have same := checksum_withChecksum
    { header.truncate with payloadLength := payload.length.toUInt16 } payload 0
  simp only [kept, sealHeader, same]

theorem verify_assembled (header : Header) {payload : Bytes} (rest : Bytes)
    (h : payload.length ≤ maxPayload) :
    verify (encode ⟨sealHeader header payload, payload⟩ ++ rest) =
      .ok ⟨sealHeader header.truncate payload, payload, true⟩ := by
  have length : (sealHeader header payload).payloadLength.toNat = payload.length :=
    toNat_length_toUInt16 h
  rw [verify_encode_append _ rest length, truncate_sealHeader, checksum_sealHeader,
    decide_eq_true rfl]

theorem assemble_of_verify {data : Bytes} {frame : VerifiedFrame} (h : verify data = .ok frame)
    (valid : frame.valid = true) :
    frame.payload.length ≤ maxPayload ∧
      assemble frame.header frame.payload = .ok frame.toFrame.encode := by
  obtain ⟨-, length, verdict, -⟩ := verify_eq_ok_iff.1 h
  have short := length_le_of_toNat length
  have same := sealHeader_eq_self length (verdict.1 valid)
  refine ⟨short, ?_⟩
  rw [assemble_of_length_le _ short, same]
  rfl

theorem assemble_inj {header other : Header} {payload otherPayload : Bytes}
    (h : payload.length ≤ maxPayload) (h' : otherPayload.length ≤ maxPayload) :
    assemble header payload = assemble other otherPayload ↔
      payload = otherPayload ∧ kept header = kept other := by
  rw [assemble_of_length_le _ h, assemble_of_length_le _ h', Except.ok.injEq]
  constructor
  · intro same
    have read := verify_assembled header [] h
    rw [same, verify_assembled other [] h'] at read
    simp only [Except.ok.injEq, VerifiedFrame.mk.injEq, and_true] at read
    obtain ⟨sealed, rfl⟩ := read
    refine ⟨rfl, ?_⟩
    have keeps := congrArg kept sealed
    rw [← truncate_sealHeader, ← truncate_sealHeader] at keeps
    simp only [kept, Header.truncate_truncate] at keeps
    exact (kept_sealHeader header _).symm.trans (keeps.symm.trans (kept_sealHeader other _))
  · rintro ⟨rfl, keeps⟩
    have sealed : (sealHeader header payload).truncate = (sealHeader other payload).truncate := by
      rw [truncate_sealHeader, truncate_sealHeader, ← sealHeader_kept, keeps, sealHeader_kept]
    rw [encode, encode, Header.encode_inj.2 sealed]

theorem encode_toFrame_of_verify {data : Bytes} {frame : VerifiedFrame}
    (h : verify data = .ok frame) :
    frame.toFrame.encode = data.take (Header.size + frame.header.payloadLength.toNat) := by
  obtain ⟨-, length, -, rest, rfl⟩ := verify_eq_ok_iff.1 h
  have whole : Header.size + frame.header.payloadLength.toNat = frame.toFrame.encode.length := by
    rw [length_encode, length]
    rfl
  rw [whole, List.take_left]

/-- What checking finds intact is what sealing makes, with anything behind it. -/
theorem valid_iff_assembled :
    (∀ data, (∃ frame, verify data = .ok frame ∧ frame.valid = true) ↔
      ∃ header payload wire rest, payload.length ≤ maxPayload ∧
        assemble header payload = .ok wire ∧ data = wire ++ rest) ∧
    (∀ header payload rest, payload.length ≤ maxPayload → ∃ wire carried,
      assemble header payload = .ok wire ∧ verify (wire ++ rest) = .ok ⟨carried, payload, true⟩ ∧
      carried.payloadLength.toNat = payload.length ∧ carried.checksum = checksum carried payload ∧
      carried = { header.truncate with
        payloadLength := carried.payloadLength, checksum := carried.checksum }) ∧
    (∀ header payload other otherPayload,
      payload.length ≤ maxPayload → otherPayload.length ≤ maxPayload →
      (assemble header payload = assemble other otherPayload ↔
        payload = otherPayload ∧ kept header = kept other)) ∧
    (∀ data frame, verify data = .ok frame →
      frame.toFrame.encode = data.take (Header.size + frame.header.payloadLength.toNat) ∧
      (frame.valid = true ↔ frame.computedChecksum = frame.header.checksum)) := by
  refine ⟨fun data => ⟨?_, ?_⟩, ?_, fun _ _ _ _ h h' => assemble_inj h h', ?_⟩
  · rintro ⟨frame, checked, valid⟩
    obtain ⟨-, -, -, rest, parts⟩ := verify_eq_ok_iff.1 checked
    obtain ⟨short, assembled⟩ := assemble_of_verify checked valid
    exact ⟨frame.header, frame.payload, _, rest, short, assembled, parts⟩
  · rintro ⟨header, payload, wire, rest, short, assembled, rfl⟩
    rw [assemble_of_length_le header short] at assembled
    obtain rfl := Except.ok.inj assembled
    exact ⟨_, verify_assembled header rest short, rfl⟩
  · intro header payload rest short
    refine ⟨_, _, assemble_of_length_le header short, verify_assembled header rest short,
      toNat_length_toUInt16 short, (checksum_sealHeader _ _).symm, ?_⟩
    simp only [sealHeader]
  · intro data frame checked
    exact ⟨encode_toFrame_of_verify checked, (verify_eq_ok_iff.1 checked).2.2.1⟩

theorem wide_header_checks :
    [(72 : UInt8), 105].length ≤ maxPayload ∧ ∃ wire carried,
      assemble ⟨18, 3, 16000, 5, 7, 1, 1000, 9, 77⟩ [72, 105] = .ok wire ∧
      verify (wire ++ [255]) = .ok ⟨carried, [72, 105], true⟩ ∧
      carried = ⟨2, 3, 16000, 1, 3, 1, 1000, 2, carried.checksum⟩ := by
  refine ⟨by decide, ?_⟩
  obtain ⟨wire, carried, assembled, checked, length, -, fields⟩ :=
    valid_iff_assembled.2.1 ⟨18, 3, 16000, 5, 7, 1, 1000, 9, 77⟩ [72, 105] [255] (by decide)
  have two : carried.payloadLength = 2 := UInt16.toNat_inj.1 length
  refine ⟨wire, carried, assembled, checked, ?_⟩
  rw [two] at fields
  exact fields.trans rfl

end VoiceBus.Frame
