import VoiceBus.Config.Reader
import VoiceBus.Proofs.Json.Numeral

/-!
# Fields given by the members of an object

A field is given by the value under its key, which may stand once. The fields that the members give
are what is read of them, whatever their order is and whatever stands between them, and an object in
which a field stands twice is refused.
-/

namespace VoiceBus

open Json

namespace Json

variable {members : List (Text × Value)} {named : List (String × Value)} {key : String} {α : Type}

/-! ## Members under a key -/

/-- The values under a key, in their order. -/
def under (key : String) (members : List (Text × Value)) : List Value :=
  (members.filter (·.1 = some key)).map Prod.snd

/-- The key stands once and its value means what is given, or it is missing and nothing is given. -/
inductive Gives (members : List (Text × Value)) (key : String) (Means : Value → α → Prop) :
    Option α → Prop
  | missing : under key members = [] → Gives members key Means none
  | once {value : Value} {given : α} :
    under key members = [value] → Means value given → Gives members key Means (some given)

theorem Gives.map {β : Type} {Means : Value → α → Prop} {Other : Value → β → Prop}
    {given : Option α} {f : α → β} (gives : Gives members key Means given)
    (also : ∀ value a, Means value a → Other value (f a)) :
    Gives members key Other (given.map f) := by
  cases gives with
  | missing nothing => exact .missing nothing
  | once only means => exact .once only (also _ _ means)

namespace Value

theorem natBelow?_plain {n bound : Nat} (small : n < bound) :
    natBelow? bound (.number (.plain n)) = some n := by
  simp [natBelow?, Number.toNat?_plain, Option.filter, small]

theorem exists_namedMembers? (texts : ∀ member ∈ members, member.1 ≠ none) :
    ∃ named, namedMembers? members = some named := by
  induction members with
  | nil => exact ⟨[], rfl⟩
  | cons member members ih =>
    obtain ⟨first, others⟩ := List.forall_mem_cons.1 texts
    obtain ⟨named, found⟩ := ih others
    obtain ⟨key, value⟩ := member
    obtain ⟨key, rfl⟩ := Option.ne_none_iff_exists'.1 first
    refine ⟨(key, value) :: named, ?_⟩
    unfold namedMembers? at found ⊢
    rw [List.mapM_cons, found]
    rfl

theorem under_of_namedMembers? (found : namedMembers? members = some named) (key : String) :
    under key members = (named.filter (·.1 = key)).map Prod.snd := by
  induction members generalizing named with
  | nil =>
    cases found
    rfl
  | cons member members ih =>
    unfold namedMembers? at found
    simp only [List.mapM_cons, Option.bind_eq_bind, Option.bind_eq_some_iff, Option.pure_def,
      Option.some.injEq] at found
    obtain ⟨_, first, named, others, rfl⟩ := found
    obtain ⟨text, texts, rfl⟩ := Option.map_eq_some_iff.1 first
    have rest := ih others
    unfold under at rest ⊢
    by_cases same : text = key
    · simp [texts, same, rest]
    · simp [texts, same, rest]

theorem member?_of_nil (found : namedMembers? members = some named)
    (nothing : under key members = []) : member? named key = some none := by
  rw [under_of_namedMembers? found, List.map_eq_nil_iff] at nothing
  rw [member?, nothing]

theorem member?_of_singleton {value : Value} (found : namedMembers? members = some named)
    (once : under key members = [value]) : member? named key = some (some value) := by
  rw [under_of_namedMembers? found, List.map_eq_singleton_iff] at once
  obtain ⟨member, only, rfl⟩ := once
  rw [member?, only]

theorem member?_of_repeated (found : namedMembers? members = some named)
    (twice : 2 ≤ (under key members).length) : member? named key = none := by
  rw [under_of_namedMembers? found, List.length_map] at twice
  unfold member?
  split
  · next nothing => simp [nothing] at twice
  · next only => simp [only] at twice
  · rfl

theorem optional_of_gives {Means : Value → α → Prop} {given : Option α}
    {read : Value → Option α} (found : namedMembers? members = some named)
    (gives : Gives members key Means given)
    (reads : ∀ value a, Means value a → read value = some a) :
    ∃ value, member? named key = some value ∧ optional read value = some given := by
  cases gives with
  | missing nothing => exact ⟨none, member?_of_nil found nothing, rfl⟩
  | once only means =>
    refine ⟨some _, member?_of_singleton found only, ?_⟩
    rw [optional, reads _ _ means]
    rfl

theorem optional_natBelow? {bound : Nat} {given : Option Nat}
    (found : namedMembers? members = some named)
    (gives : Gives members key (fun value n => value = .number (.plain n) ∧ n < bound) given) :
    ∃ value, member? named key = some value ∧ optional (·.natBelow? bound) value = some given := by
  apply optional_of_gives found gives
  rintro _ n ⟨rfl, small⟩
  exact natBelow?_plain small

theorem fields?_of_repeated {keys : List String} (known : key ∈ keys)
    (twice : 2 ≤ (under key members).length) : (object members).fields? keys = none := by
  cases found : namedMembers? members with
  | none => simp [fields?, found]
  | some named =>
    have spoiled : member? named key = none := member?_of_repeated found twice
    obtain ⟨before, after, rfl⟩ := List.append_of_mem known
    simp [fields?, found, List.mapM_append, List.mapM_cons, spoiled]

end Value

/-! ## Values of fields -/

/-- A format is given by its name, alone or as the only key of an object whose value is null. -/
inductive Value.IsFormat : Value → AudioFormat → Prop
  | name (format : AudioFormat) : IsFormat (.text (some format.name)) format
  | key (format : AudioFormat) : IsFormat (.object [(some format.name, .null)]) format

/-- A span is given by a number of seconds, at least zero, to the nearest nanosecond. -/
inductive Value.IsSpan : Value → Duration → Prop
  | seconds {literal : Number} {seconds : Rat} {span : Duration} :
    literal.magnitude? = some seconds → (literal.negative = true → seconds = 0) →
    span.total = Numeric.roundHalfEven (seconds * (Duration.perSecond : Rat)) →
    IsSpan (.number literal) span

namespace Value

theorem audioFormat?_of_isFormat {value : Value} {format : AudioFormat}
    (given : value.IsFormat format) : value.audioFormat? = some format := by
  cases given with
  | name => exact AudioFormat.ofName?_name format
  | key => exact AudioFormat.ofName?_name format

theorem duration?_of_isSpan {value : Value} {span : Duration} (given : value.IsSpan span) :
    value.duration? = some span := by
  cases given with
  | @seconds literal seconds _ size sign nearest =>
    have whole : Duration.ofBinary64? seconds = some span := by
      rw [Duration.ofBinary64?, ← nearest, Duration.ofTotal?_total]
    simpa [duration?, size, whole] using sign

end Value

end Json

/-! ## Drafts of an object -/

/-- The members give these audio fields and no others. -/
structure AudioDraft.GivenBy (draft : AudioDraft) (members : List (Text × Value)) : Prop where
  /-- Every key is a text. -/
  texts : ∀ member ∈ members, member.1 ≠ none
  sampleRate : Gives members "sample_rate"
    (fun value rate => value = .number (.plain (UInt16.toNat rate))) draft.sampleRate
  channels : Gives members "channels"
    (fun value count => value = .number (.plain (UInt8.toNat count))) draft.channels
  format : Gives members "format" Value.IsFormat draft.format

/-- The members give these fields and no others. -/
structure Draft.GivenBy (draft : Draft) (members : List (Text × Value)) : Prop where
  texts : ∀ member ∈ members, member.1 ≠ none
  audio : ∃ audio : Option AudioDraft, draft.audio = audio.getD {} ∧
    Gives members "audio"
      (fun value draft => ∃ inner, value = .object inner ∧ AudioDraft.GivenBy draft inner) audio
  topic : Gives members "topic" (fun value topic => value = .text (some topic)) draft.topic
  maxFragment : Gives members "max_fragment_size"
    (fun value size => value = .number (.plain size) ∧ size < UInt64.size) draft.maxFragment
  expiry : Gives members "fragment_expiry" Value.IsSpan draft.expiry

variable {members : List (Text × Value)}

theorem AudioDraft.ofValue?_of_givenBy {draft : AudioDraft} (given : draft.GivenBy members) :
    AudioDraft.ofValue? (.object members) = some draft := by
  obtain ⟨named, found⟩ := Value.exists_namedMembers? given.texts
  obtain ⟨rate, rateFound, rateRead⟩ := Value.optional_natBelow? found
    (given.sampleRate.map fun _ rate same => ⟨same, rate.toNat_lt_size⟩)
  obtain ⟨channels, channelsFound, channelsRead⟩ := Value.optional_natBelow? found
    (given.channels.map fun _ count same => ⟨same, count.toNat_lt_size⟩)
  obtain ⟨format, formatFound, formatRead⟩ :=
    Value.optional_of_gives found given.format fun _ _ => Value.audioFormat?_of_isFormat
  have fields : (Value.object members).fields? ["sample_rate", "channels", "format"] =
      some [rate, channels, format] := by
    simp [Value.fields?, found, rateFound, channelsFound, formatFound]
  have rateSame : (draft.sampleRate.map UInt16.toNat).map UInt16.ofNat = draft.sampleRate := by
    simp [Function.comp_def]
  have channelsSame : (draft.channels.map UInt8.toNat).map UInt8.ofNat = draft.channels := by
    simp [Function.comp_def]
  simp only [AudioDraft.ofValue?, fields, rateRead, channelsRead, formatRead, rateSame,
    channelsSame, Option.bind_eq_bind, Option.bind_some]
  rfl

theorem Draft.ofValue?_of_givenBy {draft : Draft} (given : draft.GivenBy members) :
    Draft.ofValue? (.object members) = some draft := by
  obtain ⟨named, found⟩ := Value.exists_namedMembers? given.texts
  obtain ⟨inner, audioSame, innerGiven⟩ := given.audio
  obtain ⟨audio, audioFound, audioRead⟩ := Value.optional_of_gives found innerGiven (by
    rintro _ _ ⟨inner, rfl, innerGiven⟩
    exact AudioDraft.ofValue?_of_givenBy innerGiven)
  obtain ⟨topic, topicFound, topicRead⟩ := Value.optional_of_gives found given.topic (by
    rintro _ topic rfl
    exact (rfl : (Value.text (some topic)).string? = _))
  obtain ⟨size, sizeFound, sizeRead⟩ := Value.optional_natBelow? found given.maxFragment
  obtain ⟨expiry, expiryFound, expiryRead⟩ :=
    Value.optional_of_gives found given.expiry fun _ _ => Value.duration?_of_isSpan
  have fields : (Value.object members).fields?
      ["audio", "topic", "max_fragment_size", "fragment_expiry"] =
      some [audio, topic, size, expiry] := by
    simp [Value.fields?, found, audioFound, topicFound, sizeFound, expiryFound]
  simp only [Draft.ofValue?, fields, audioRead, topicRead, sizeRead, expiryRead, ← audioSame,
    Option.bind_eq_bind, Option.bind_some]
  rfl

/-! ## Repeated fields -/

theorem Draft.ofValue?_of_repeated {key : String}
    (known : key ∈ ["audio", "topic", "max_fragment_size", "fragment_expiry"])
    (twice : 2 ≤ (under key members).length) : Draft.ofValue? (.object members) = none := by
  rw [Draft.ofValue?, Value.fields?_of_repeated known twice]
  rfl

theorem AudioDraft.ofValue?_of_repeated {key : String}
    (known : key ∈ ["sample_rate", "channels", "format"])
    (twice : 2 ≤ (under key members).length) : AudioDraft.ofValue? (.object members) = none := by
  rw [AudioDraft.ofValue?, Value.fields?_of_repeated known twice]
  rfl

theorem Draft.ofValue?_of_audio {value : Value} (given : value ∈ under "audio" members)
    (refused : AudioDraft.ofValue? value = none) : Draft.ofValue? (.object members) = none := by
  by_cases twice : 2 ≤ (under "audio" members).length
  · exact ofValue?_of_repeated (by decide) twice
  · obtain ⟨only, once⟩ : ∃ only, under "audio" members = [only] := by
      have some := List.length_pos_of_mem given
      exact List.length_eq_one_iff.1 (by omega)
    obtain rfl := List.mem_singleton.1 (once ▸ given)
    cases fields : (Value.object members).fields?
      ["audio", "topic", "max_fragment_size", "fragment_expiry"] with
    | none =>
      rw [Draft.ofValue?, fields]
      rfl
    | some found =>
      -- the audio field is looked up first, so its value is the first that was found
      obtain ⟨named, texts, all⟩ := Option.bind_eq_some_iff.1 fields
      have first := Value.member?_of_singleton texts once
      simp only [List.mapM_cons, List.mapM_nil, first, Option.bind_eq_bind, Option.bind_eq_some_iff,
        Option.pure_def, Option.some.injEq] at all
      obtain ⟨_, rfl, _, ⟨topic, -, _, ⟨size, -, _, ⟨expiry, -, _, rfl, rfl⟩, rfl⟩, rfl⟩, rfl⟩ :=
        all
      simp [Draft.ofValue?, fields, Value.optional, refused]

end VoiceBus
