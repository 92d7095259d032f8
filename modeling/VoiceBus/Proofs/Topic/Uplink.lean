import VoiceBus.Proofs.Topic.Grammar

/-!
# Topics that are made, not read

A topic made from its levels is checked, but its levels are not split. A slash inside the vendor or
the device type passes, and then neither the path of the topic nor that of its reply can be read:
each slash is a level too many.
-/

namespace VoiceBus.Topic

variable {vendor deviceType deviceSn : String} {topic : Topic}

theorem length_splitLevels (path : List Char) :
    (splitLevels path).length = path.count '/' + 1 := by
  induction path with
  | nil => rfl
  | cons c rest ih =>
    rw [splitLevels_cons]
    unfold splitStep
    by_cases slash : c = '/'
    · rw [if_pos slash, slash, List.count_cons_self, List.length_cons, ih]
    · rw [if_neg slash, List.count_cons_of_ne slash, ← ih]
      split
      next levels => exact absurd levels (splitLevels_ne_nil rest)
      next first others levels => rw [levels, List.length_cons, List.length_cons]

theorem parse_of_too_many_slashes {text : String} (h : 4 < text.toList.count '/') :
    parse text = .error (.tooManyLevels (text.toList.count '/' + 1)) := by
  have length := length_splitLevels text.toList
  have nonempty : text.isEmpty ≠ true := by
    intro empty
    rw [String.isEmpty_iff.1 empty] at h
    cases h
  unfold parse
  rw [if_neg nonempty]
  split
  next levels =>
    have five := congrArg List.length levels
    rw [List.length_map] at five
    simp only [List.length_cons, List.length_nil] at five
    omega
  next =>
    have many : ¬ text.toList.count '/' + 1 < levelCount := by
      unfold levelCount
      omega
    rw [List.length_map, length, if_neg many]

/-! ## The uplink topic of a device -/

theorem voiceUplink_eq_ok_iff :
    voiceUplink vendor deviceType deviceSn = .ok topic ↔
      (vendor ≠ "" ∧ deviceType ≠ "" ∧ IsSn deviceSn) ∧
        topic = ⟨vendor, deviceType, deviceSn, "voice", .server⟩ := by
  unfold voiceUplink
  rw [checked_eq_ok_iff]
  constructor
  · rintro ⟨⟨v, t, -, s⟩, rfl⟩
    exact ⟨⟨v, t, s⟩, rfl⟩
  · rintro ⟨⟨v, t, s⟩, rfl⟩
    exact ⟨⟨v, t, (by decide : "voice" ≠ ""), s⟩, rfl⟩

theorem parse_path_of_slashes (v : topic.vendor ≠ "") (t : topic.deviceType ≠ "")
    (s : IsSn topic.deviceSn) (c : IsLevel topic.command) :
    parse topic.path =
      if '/' ∈ topic.vendor.toList ∨ '/' ∈ topic.deviceType.toList then
        .error (.tooManyLevels
          (topic.vendor.toList.count '/' + topic.deviceType.toList.count '/' + 5))
      else .ok topic := by
  by_cases slash : '/' ∈ topic.vendor.toList ∨ '/' ∈ topic.deviceType.toList
  · have slashes := count_path topic
    rw [List.count_eq_zero.2 (slash_notMem_of_isSn s), List.count_eq_zero.2 c.2] at slashes
    have some : 0 < topic.vendor.toList.count '/' + topic.deviceType.toList.count '/' := by
      rw [Nat.add_pos_iff_pos_or_pos]
      exact slash.imp List.count_pos_iff.2 List.count_pos_iff.2
    rw [if_pos slash, parse_of_too_many_slashes (by omega), slashes]
  · rw [if_neg slash]
    rw [not_or] at slash
    exact parse_eq_ok_iff.2 ⟨⟨⟨v, slash.1⟩, ⟨t, slash.2⟩, s, c⟩, rfl⟩

/-- An uplink topic is read back exactly when vendor and device type hold no slash. -/
theorem uplink_read_back_iff (vendor deviceType deviceSn : String) :
    (∀ topic, voiceUplink vendor deviceType deviceSn = .ok topic ↔
      (vendor ≠ "" ∧ deviceType ≠ "" ∧ IsSn deviceSn) ∧
        topic = ⟨vendor, deviceType, deviceSn, "voice", .server⟩) ∧
    ∀ topic, voiceUplink vendor deviceType deviceSn = .ok topic →
      ∀ way ∈ [topic, topic.reply], parse way.path =
        if '/' ∈ vendor.toList ∨ '/' ∈ deviceType.toList then
          .error (.tooManyLevels (vendor.toList.count '/' + deviceType.toList.count '/' + 5))
        else .ok way := by
  refine ⟨fun topic => voiceUplink_eq_ok_iff, ?_⟩
  intro topic made
  obtain ⟨⟨v, t, s⟩, rfl⟩ := voiceUplink_eq_ok_iff.1 made
  have command : IsLevel "voice" := ⟨by decide, by decide⟩
  simp only [List.forall_mem_cons, List.not_mem_nil, false_implies, implies_true, and_true]
  exact ⟨parse_path_of_slashes v t s command, parse_path_of_slashes v t s command⟩

theorem slashed_vendor_not_read_back :
    voiceUplink "acme/eu" "speaker" "SN_01" =
      .ok ⟨"acme/eu", "speaker", "SN_01", "voice", .server⟩ ∧
    parse "acme/eu/speaker/SN_01/voice/server" = .error (.tooManyLevels 6) ∧
    parse "acme/eu/speaker/SN_01/voice/client" = .error (.tooManyLevels 6) := by
  have made : voiceUplink "acme/eu" "speaker" "SN_01" =
      .ok ⟨"acme/eu", "speaker", "SN_01", "voice", .server⟩ := by
    rfl
  have read := (uplink_read_back_iff "acme/eu" "speaker" "SN_01").2 _ made
  exact ⟨made, read _ (List.mem_cons_self ..),
    read _ (List.mem_cons_of_mem _ (List.mem_cons_self ..))⟩

end VoiceBus.Topic
