import VoiceBus.Frame.Verify

/-!
# Sealing step by step

Sealing takes its steps in turn. The length is measured, and assembling measures it once more
before. The checksum is fed with the header and then with the payload, and only then has the header
all its fields. Checking cuts the payload out between the ends of the header and of the frame. Step
by step, all of this gives what `make`, `assemble` and `verify` say at once.
-/

namespace VoiceBus.Frame

def checksumInTurn (header : Header) (payload : Bytes) : UInt16 :=
  Crc.feed (Crc.feed Crc.initial header.encodeUnsummed) payload

/-- The length of a payload as its field carries it. -/
def measure (payload : Bytes) : Except FrameError UInt16 :=
  if fits : payload.length < UInt16.size then .ok (UInt16.ofNatLT payload.length fits)
  else .error (.payloadTooLarge payload.length)

def makeInTurn (header : Header) (payload : Bytes) : Except FrameError Frame := do
  let length ← measure payload
  let measured := { header with payloadLength := length }
  let summed := { measured with checksum := checksumInTurn measured payload }
  return ⟨summed, payload⟩

def assembleInTurn (header : Header) (payload : Bytes) : Except FrameError Bytes := do
  if maxPayload < payload.length then throw (.payloadTooLarge payload.length)
  let frame ← makeInTurn header payload
  return frame.encode

def verifyInTurn (data : Bytes) : Except FrameError VerifiedFrame := do
  let header ← Header.decode data
  let need := Header.size + header.payloadLength.toNat
  if data.length < need then .error (.truncatedFrame need data.length)
  else
    let payload := (data.take need).drop Header.size
    let computed := checksumInTurn header payload
    return ⟨header, payload, computed = header.checksum⟩

theorem checksumInTurn_eq (header : Header) (payload : Bytes) :
    checksumInTurn header payload = checksum header payload :=
  (Crc.feed_append Crc.initial header.encodeUnsummed payload).symm

theorem measure_of_length_le {payload : Bytes} (h : payload.length ≤ maxPayload) :
    measure payload = .ok payload.length.toUInt16 := by
  have fits : payload.length < UInt16.size := Nat.lt_succ_of_le h
  rw [measure, dif_pos fits, Nat.toUInt16_eq, UInt16.ofNatLT_eq_ofNat]

theorem measure_of_lt_length {payload : Bytes} (h : maxPayload < payload.length) :
    measure payload = .error (.payloadTooLarge payload.length) :=
  dif_neg (Nat.not_lt.2 h)

theorem makeInTurn_eq (header : Header) (payload : Bytes) :
    makeInTurn header payload = make header payload := by
  unfold makeInTurn
  by_cases short : payload.length ≤ maxPayload
  · rw [measure_of_length_le short, make_of_length_le short, sealHeader, ← checksumInTurn_eq]
    rfl
  · rw [Nat.not_le] at short
    rw [measure_of_lt_length short, make_of_lt_length short]
    rfl

theorem assembleInTurn_eq (header : Header) (payload : Bytes) :
    assembleInTurn header payload = assemble header payload := by
  unfold assembleInTurn assemble
  rw [makeInTurn_eq]
  by_cases short : payload.length ≤ maxPayload
  · rw [if_neg (Nat.not_lt.2 short), make_of_length_le short]
    rfl
  · rw [Nat.not_le] at short
    rw [if_pos short, make_of_lt_length short]
    rfl

theorem verifyInTurn_eq (data : Bytes) : verifyInTurn data = verify data := by
  unfold verifyInTurn verify
  cases Header.decode data with
  | error error => rfl
  | ok header =>
    simp only [bind, Except.bind, List.drop_take, Nat.add_sub_cancel_left, checksumInTurn_eq]
    rfl

end VoiceBus.Frame
