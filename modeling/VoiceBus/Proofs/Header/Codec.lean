import VoiceBus.Header.Layout

/-! # What a frame carries of a header -/

namespace VoiceBus.Header

theorem truncate_narrow (field : NarrowField) (value : UInt8) :
    field.truncate (field.truncate value) = field.truncate value := by
  cases field <;>
    simp only [NarrowField.truncate, NarrowField.limit, ← UInt8.toNat_inj, UInt8.toNat_mod,
      UInt8.reduceToNat, Nat.mod_mod]

@[simp] theorem truncate_truncate (header : Header) :
    header.truncate.truncate = header.truncate := by
  simp only [truncate, truncate_narrow]

@[simp] theorem encode_truncate (header : Header) : header.truncate.encode = header.encode := by
  have v := truncate_narrow .version header.version
  have c := truncate_narrow .channelCount header.channelCount
  have f := truncate_narrow .frameFlag header.frameFlag
  simp only [NarrowField.truncate, NarrowField.limit] at v c f
  simp only [encode, truncate, NarrowField.truncate, NarrowField.limit, v, c, f]

theorem encode_inj {header other : Header} :
    header.encode = other.encode ↔ header.truncate = other.truncate := by
  constructor
  · intro h
    have read := decode_encode header []
    rw [h, decode_encode other []] at read
    exact (Except.ok.inj read).symm
  · intro h
    rw [← encode_truncate header, h, encode_truncate]

theorem decode_eq_ok_iff {data : Bytes} {header : Header} :
    decode data = .ok header ↔
      header.truncate = header ∧ ∃ rest, data = header.encode ++ rest := by
  constructor
  · intro h
    have parts : data = header.encode ++ data.drop size := by
      rw [encode_of_decode h, List.take_append_drop]
    refine ⟨?_, _, parts⟩
    rw [parts, decode_encode] at h
    exact Except.ok.inj h
  · rintro ⟨fits, rest, rfl⟩
    rw [decode_encode, fits]

theorem exists_decode {data : Bytes} (h : size ≤ data.length) :
    ∃ header rest, decode data = .ok header ∧ data = header.encode ++ rest := by
  cases decoded : decode data with
  | ok header =>
    obtain ⟨-, rest, parts⟩ := decode_eq_ok_iff.1 decoded
    exact ⟨header, rest, rfl, parts⟩
  | error error =>
    unfold decode at decoded
    split at decoded
    · cases decoded
    · rename_i short
      match data, h with
      | b0 :: b1 :: b2 :: b3 :: s0 :: s1 :: t0 :: t1 :: l0 :: l1 :: c0 :: c1 :: rest, _ =>
        exact absurd rfl (short b0 b1 b2 b3 s0 s1 t0 t1 l0 l1 c0 c1 rest)

end VoiceBus.Header
