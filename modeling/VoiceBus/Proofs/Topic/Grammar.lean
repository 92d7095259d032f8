import Mathlib.Tactic.SplitIfs
import VoiceBus.Topic

/-!
# The grammar of topics

A text is read as a topic exactly when it is five levels that fit, joined by slashes, and it is then
the path of that topic and of no other. Any other text is refused for the first fault in a fixed
order.
-/

namespace VoiceBus

/-! ## Directions -/

namespace Direction

theorem parse_name (direction : Direction) : parse direction.name = .ok direction := by
  cases direction <;> rfl

theorem slash_notMem_name (direction : Direction) : '/' ∉ direction.name.toList := by
  cases direction <;> decide

theorem name_inj {direction way : Direction} (h : direction.name = way.name) : direction = way := by
  have same := parse_name direction
  rw [h, parse_name] at same
  exact (Except.ok.inj same).symm

theorem eq_name_of_parse {text : String} {direction : Direction}
    (h : parse text = .ok direction) : text = direction.name := by
  unfold parse at h
  split at h
  next server =>
    obtain rfl := Except.ok.inj h
    exact server
  next =>
    split at h
    next client =>
      obtain rfl := Except.ok.inj h
      exact client
    next => split at h <;> cases h

end Direction

namespace Topic

/-! ## Levels -/

/-- The text is these levels, free of slashes, joined by slashes. -/
structure HasLevels (text : String) (levels : List String) : Prop where
  joined : "/".intercalate levels = text
  nonempty : levels ≠ []
  free : ∀ level ∈ levels, '/' ∉ level.toList

theorem splitLevels_eq_splitOn (path : List Char) : splitLevels path = path.splitOn '/' := by
  induction path with
  | nil => rfl
  | cons c rest ih =>
    rw [splitLevels_cons, ih, List.splitOn_cons_eq_if_modifyHead]
    unfold splitStep
    by_cases slash : c = '/'
    · rw [if_pos slash, if_pos (beq_iff_eq.2 slash)]
    · rw [if_neg slash, if_neg fun same => slash (beq_iff_eq.1 same)]
      cases levels : rest.splitOn '/' with
      | nil => exact absurd levels (List.splitOn_ne_nil '/' rest)
      | cons level others => rfl

theorem slash_notMem_of_mem_splitLevels {path level : List Char} (h : level ∈ splitLevels path) :
    '/' ∉ level := by
  induction path generalizing level with
  | nil =>
    obtain rfl := List.mem_singleton.1 h
    exact List.not_mem_nil
  | cons c rest ih =>
    rw [splitLevels_cons] at h
    unfold splitStep at h
    split at h
    · rcases List.mem_cons.1 h with rfl | later
      · exact List.not_mem_nil
      · exact ih later
    next slash =>
      split at h
      next levels => exact absurd levels (splitLevels_ne_nil rest)
      next first others levels =>
        rw [levels] at ih
        rcases List.mem_cons.1 h with rfl | later
        · rw [List.mem_cons, not_or]
          exact ⟨Ne.symm slash, ih (List.mem_cons_self ..)⟩
        · exact ih (List.mem_cons_of_mem _ later)

theorem hasLevels_iff {text : String} {levels : List String} :
    HasLevels text levels ↔ (splitLevels text.toList).map String.ofList = levels := by
  have there (levels : List String) : (levels.map String.toList).map String.ofList = levels := by
    simp [Function.comp_def]
  have back (levels : List (List Char)) :
      (levels.map String.ofList).map String.toList = levels := by
    simp [Function.comp_def]
  rw [splitLevels_eq_splitOn]
  constructor
  · rintro ⟨rfl, nonempty, free⟩
    rw [String.toList_intercalate]
    have split : (['/'].intercalate (levels.map String.toList)).splitOn '/' =
        levels.map String.toList :=
      List.splitOn_intercalate '/' (by simpa using free) (by simpa using nonempty)
    exact (congrArg _ split).trans (there levels)
  · rintro rfl
    refine ⟨?_, ?_, ?_⟩
    · rw [← String.toList_inj, String.toList_intercalate, back]
      exact List.intercalate_splitOn '/'
    · rw [ne_eq, List.map_eq_nil_iff]
      exact List.splitOn_ne_nil '/' text.toList
    · simp only [List.forall_mem_map, String.toList_ofList, ← splitLevels_eq_splitOn]
      exact fun level => slash_notMem_of_mem_splitLevels

/-! ## What fits -/

/-- A character of serial numbers. -/
def IsSnChar (c : Char) : Prop :=
  ('A' ≤ c ∧ c ≤ 'Z') ∨ ('a' ≤ c ∧ c ≤ 'z') ∨ ('0' ≤ c ∧ c ≤ '9') ∨ c = '_'

def IsSn (text : String) : Prop := text ≠ "" ∧ ∀ c ∈ text.toList, IsSnChar c

def IsLevel (text : String) : Prop := text ≠ "" ∧ '/' ∉ text.toList

/-- Every level of the topic can stand in a path. -/
structure Fits (topic : Topic) : Prop where
  vendor : IsLevel topic.vendor
  deviceType : IsLevel topic.deviceType
  deviceSn : IsSn topic.deviceSn
  command : IsLevel topic.command

instance : DecidablePred IsSnChar := fun _ => inferInstanceAs (Decidable (_ ∨ _))

instance : DecidablePred IsSn := fun _ => inferInstanceAs (Decidable (_ ∧ _))

theorem isDeviceSn_iff (text : String) : isDeviceSn text = true ↔ IsSn text := by
  have char (c : Char) : (c.isAlphanum || c == '_') = true ↔ IsSnChar c := by
    have ranges : (c.isAlphanum || c == '_') =
        (('A' ≤ c ∧ c ≤ 'Z') || ('a' ≤ c && c ≤ 'z') || ('0' ≤ c && c ≤ '9') || c == '_') := rfl
    rw [ranges]
    simp only [IsSnChar, Bool.or_eq_true, Bool.and_eq_true, decide_eq_true_eq, beq_iff_eq, or_assoc]
  simp only [isDeviceSn, IsSn, Bool.and_eq_true, List.all_eq_true, char, Bool.not_eq_true',
    ← Bool.not_eq_true, String.isEmpty_iff, ne_eq]

theorem slash_notMem_of_isSn {text : String} (h : IsSn text) : '/' ∉ text.toList := by
  intro member
  exact absurd (h.2 '/' member) (by decide)

variable {text : String} {topic other : Topic}

/-! ## Reading -/

theorem checked_eq_ok_iff :
    checked topic = .ok other ↔ (topic.vendor ≠ "" ∧ topic.deviceType ≠ "" ∧ topic.command ≠ "" ∧
      IsSn topic.deviceSn) ∧ topic = other := by
  simp only [checked, validate, isDeviceSn_iff, String.isEmpty_iff]
  split_ifs <;> simp_all [Except.map]

theorem parse_of_hasLevels {vendor deviceType deviceSn command direction : String}
    (h : HasLevels text [vendor, deviceType, deviceSn, command, direction]) :
    parse text = match Direction.parse direction with
      | .error error => .error error
      | .ok direction => checked ⟨vendor, deviceType, deviceSn, command, direction⟩ := by
  have levels := hasLevels_iff.1 h
  have nonempty : text.isEmpty ≠ true := by
    intro empty
    rw [String.isEmpty_iff.1 empty] at levels
    cases levels
  cases read : Direction.parse direction with
  | error error => simp only [parse, if_neg nonempty, levels, read]
  | ok way => simp only [parse, if_neg nonempty, levels, read]

theorem hasLevels_path (h : Fits topic) :
    HasLevels topic.path
      [topic.vendor, topic.deviceType, topic.deviceSn, topic.command, topic.direction.name] where
  joined := rfl
  nonempty := by simp
  free := by
    simp [h.vendor.2, h.deviceType.2, slash_notMem_of_isSn h.deviceSn, h.command.2,
      Direction.slash_notMem_name]

theorem parse_eq_ok_iff : parse text = .ok topic ↔ Fits topic ∧ text = topic.path := by
  constructor
  · intro h
    have levels : HasLevels text _ := hasLevels_iff.2 rfl
    unfold parse at h
    split at h
    · cases h
    split at h
    next vendor deviceType deviceSn command direction parts =>
      rw [parts] at levels
      split at h
      · cases h
      next way found =>
        obtain ⟨⟨v, t, c, s⟩, rfl⟩ := checked_eq_ok_iff.1 h
        obtain rfl := Direction.eq_name_of_parse found
        obtain ⟨joined, -, free⟩ := levels
        simp only [List.forall_mem_cons] at free
        obtain ⟨v', t', -, c', -⟩ := free
        exact ⟨⟨⟨v, v'⟩, ⟨t, t'⟩, s, ⟨c, c'⟩⟩, joined.symm⟩
    · cases h
  · rintro ⟨fits, rfl⟩
    rw [parse_of_hasLevels (hasLevels_path fits), Direction.parse_name]
    exact checked_eq_ok_iff.2
      ⟨⟨fits.vendor.1, fits.deviceType.1, fits.command.1, fits.deviceSn⟩, rfl⟩

/-! ## Paths of topics -/

theorem count_path (topic : Topic) :
    topic.path.toList.count '/' = topic.vendor.toList.count '/' +
      topic.deviceType.toList.count '/' + topic.deviceSn.toList.count '/' +
      topic.command.toList.count '/' + 4 := by
  have slash : "/".toList.count '/' = 1 := by decide
  simp only [path, String.toList_append, List.count_append, slash,
    List.count_eq_zero.2 (Direction.slash_notMem_name topic.direction)]
  omega

theorem eq_of_path_eq (fits : Fits other) (same : topic.path = other.path) : topic = other := by
  -- the path of `other` has four slashes, so none is left for the levels of `topic`
  have slashes := count_path topic
  rw [same, count_path other, List.count_eq_zero.2 fits.vendor.2,
    List.count_eq_zero.2 fits.deviceType.2,
    List.count_eq_zero.2 (slash_notMem_of_isSn fits.deviceSn),
    List.count_eq_zero.2 fits.command.2] at slashes
  have levels : HasLevels topic.path
      [topic.vendor, topic.deviceType, topic.deviceSn, topic.command, topic.direction.name] := by
    refine ⟨rfl, List.cons_ne_nil _ _, ?_⟩
    simp only [List.forall_mem_cons, ← List.count_eq_zero]
    refine ⟨by omega, by omega, by omega, by omega, ?_, by simp⟩
    exact List.count_eq_zero.2 (Direction.slash_notMem_name topic.direction)
  rw [same] at levels
  have parts := (hasLevels_iff.1 levels).symm.trans (hasLevels_iff.1 (hasLevels_path fits))
  simp only [List.cons.injEq, and_true] at parts
  obtain ⟨vendor, deviceType, deviceSn, command, direction⟩ := parts
  cases topic
  cases other
  rw [Topic.mk.injEq]
  exact ⟨vendor, deviceType, deviceSn, command, Direction.name_inj direction⟩

/-! ## Faults -/

/-- What can be wrong with a text of these levels, in the order in which it counts. -/
def faults (text : String) (levels : List String) : List (Bool × TopicError) :=
  let level (n : Nat) : String := levels.getD n ""
  [(text = "", .empty),
    (levels.length < 5, .tooFewLevels levels.length),
    (5 < levels.length, .tooManyLevels levels.length),
    (level 4 = "", .emptyLevel .direction),
    (level 4 ≠ "server" ∧ level 4 ≠ "client", .invalidDirection (level 4)),
    (level 0 = "", .emptyLevel .vendor),
    (level 1 = "", .emptyLevel .deviceType),
    (level 3 = "", .emptyLevel .command),
    (¬ IsSn (level 2), .invalidDeviceSn (level 2))]

/-- The first of the faults that there is. -/
def firstOf (faults : List (Bool × TopicError)) : Option TopicError :=
  (faults.find? (·.1)).map (·.2)

theorem firstOf_nil : firstOf [] = none := rfl

theorem firstOf_cons (present : Bool) (error : TopicError) (rest : List (Bool × TopicError)) :
    firstOf ((present, error) :: rest) = if present then some error else firstOf rest := by
  cases present <;> rfl

theorem firstOf_faults (vendor deviceType deviceSn command direction : String) (h : text ≠ "") :
    firstOf (faults text [vendor, deviceType, deviceSn, command, direction]) =
      if direction = "" then some (.emptyLevel .direction)
      else if direction ≠ "server" ∧ direction ≠ "client" then some (.invalidDirection direction)
      else if vendor = "" then some (.emptyLevel .vendor)
      else if deviceType = "" then some (.emptyLevel .deviceType)
      else if command = "" then some (.emptyLevel .command)
      else if IsSn deviceSn then none
      else some (.invalidDeviceSn deviceSn) := by
  simp [faults, firstOf_cons, firstOf_nil, h]

theorem parse_eq_error_iff {levels : List String} (h : HasLevels text levels)
    (error : TopicError) :
    parse text = .error error ↔ firstOf (faults text levels) = some error := by
  by_cases empty : text = ""
  · subst empty
    simp [parse, firstOf_cons, faults]
  match levels with
  | [vendor, deviceType, deviceSn, command, direction] =>
    rw [parse_of_hasLevels h, firstOf_faults _ _ _ _ _ empty]
    simp only [Direction.parse, checked, validate, isDeviceSn_iff, String.isEmpty_iff]
    split_ifs <;> simp_all [Except.map]
  | [] | [_] | [_, _] | [_, _, _] | [_, _, _, _] =>
    simp [parse, hasLevels_iff.1 h, firstOf_cons, faults, empty, levelCount]
  | _ :: _ :: _ :: _ :: _ :: _ :: rest =>
    have many : ¬ rest.length + 6 < 5 := by omega
    simp [parse, hasLevels_iff.1 h, firstOf_cons, faults, empty, levelCount, many]

-- the direction counts before the levels that stand in front of it
example : parse "/lamp/!/voice/up" = .error (.invalidDirection "up") := by rfl

/-! ## The grammar -/

/-- A text is a topic exactly when it is five levels that fit; else its first fault is told. -/
theorem parse_exact :
    (∀ text topic, parse text = .ok topic ↔ Fits topic ∧ text = topic.vendor ++ "/" ++
      topic.deviceType ++ "/" ++ topic.deviceSn ++ "/" ++ topic.command ++ "/" ++
      topic.direction.name) ∧
    (∀ text topic, parse text = .ok topic →
      topic.path = text ∧ parse topic.reply.path = .ok topic.reply) ∧
    (∀ topic, (parse topic.path = .ok topic ↔ Fits topic) ∧
      ∀ other, parse topic.path = .ok other → other = topic) ∧
    ∀ text, ∃ levels, HasLevels text levels ∧ (∀ others, HasLevels text others → others = levels) ∧
      ∀ error, parse text = .error error ↔ firstOf (faults text levels) = some error := by
  refine ⟨fun text topic => parse_eq_ok_iff, ?_, ?_, ?_⟩
  · intro text topic read
    obtain ⟨fits, rfl⟩ := parse_eq_ok_iff.1 read
    have replyFits : Fits topic.reply := ⟨fits.vendor, fits.deviceType, fits.deviceSn, fits.command⟩
    exact ⟨rfl, parse_eq_ok_iff.2 ⟨replyFits, rfl⟩⟩
  · intro topic
    refine ⟨?_, ?_⟩
    · rw [parse_eq_ok_iff]
      exact and_iff_left rfl
    · intro other read
      obtain ⟨fits, same⟩ := parse_eq_ok_iff.1 read
      exact (eq_of_path_eq fits same).symm
  · intro text
    refine ⟨_, hasLevels_iff.2 rfl, ?_, parse_eq_error_iff (hasLevels_iff.2 rfl)⟩
    intro others levels
    exact (hasLevels_iff.1 levels).symm

theorem spaced_path_parses :
    parse "acme/haut-parleur é/SN_01/voice/client" =
      .ok ⟨"acme", "haut-parleur é", "SN_01", "voice", .client⟩ ∧
    parse "acme/haut-parleur é/SN_01/voice/server" =
      .ok ⟨"acme", "haut-parleur é", "SN_01", "voice", .server⟩ := by
  have read : parse "acme/haut-parleur é/SN_01/voice/client" =
      .ok ⟨"acme", "haut-parleur é", "SN_01", "voice", .client⟩ := by
    rfl
  obtain ⟨-, reply⟩ := parse_exact.2.1 _ _ read
  exact ⟨read, reply⟩

end Topic

end VoiceBus
