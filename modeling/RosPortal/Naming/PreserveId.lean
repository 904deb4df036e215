import RosPortal.Latched.Network
import RosPortal.Naming.TopicNames

/-! The ROS topic of an inbound track. A data track looks `preserve_id` up among the
patterns of all inbound entries, a video track in the first entry that has its name. -/

set_option autoImplicit false

namespace RosPortal.Naming

open JsonText Latched

structure TopicConfig where
  topic : Bytes
  direction : Direction
  latched : Bool := false
  preserveId : Bool := false
deriving DecidableEq, Repr

def TopicConfig.inbound (config : TopicConfig) : Bool := config.direction ≠ .outgoing

def incomingTopicPatterns (topics : List TopicConfig) : List Bytes :=
  (topics.filter fun config => !config.latched && config.inbound).map TopicConfig.topic

def preserveIdTopicPatterns (topics : List TopicConfig) : List Bytes :=
  (topics.filter fun config => config.inbound && config.preserveId).map TopicConfig.topic

/-- `std::unordered_map::emplace`, which keeps the element that is already there. -/
def emplace (videoTopics : List (Bytes × Bool)) (name : Bytes) (preserveId : Bool) : List (Bytes × Bool) :=
  if (videoTopics.lookup name).isSome then videoTopics else videoTopics ++ [(name, preserveId)]

/-- The body of the loop of `incomingVideoTopics`. -/
def addVideoTopic (videoTopics : List (Bytes × Bool)) (config : TopicConfig) : List (Bytes × Bool) :=
  if !config.inbound || config.latched then videoTopics
  else
    match normalizeTrackTopicName config.topic with
    | none => videoTopics
    | some name => emplace videoTopics name config.preserveId

def incomingVideoTopics (topics : List TopicConfig) : List (Bytes × Bool) := topics.foldl addVideoTopic []

/-- A pattern that does not compile is left out. -/
def compileRegexPatterns (compile : Bytes → Option (Bytes → Bool)) (patterns : List Bytes) :
    List (Bytes → Bool) :=
  patterns.filterMap compile

def matchesAnyPattern (value : Bytes) (patterns : List (Bytes → Bool)) : Bool := patterns.any (· value)

/-- The inbound part of `TopicForwarder::Options`. -/
structure ForwarderOptions where
  incomingTopicPatterns : List (Bytes → Bool)
  incomingVideoTopics : List (Bytes × Bool)
  preserveIdTopicPatterns : List (Bytes → Bool)

def topicForwarderOptions (compile : Bytes → Option (Bytes → Bool)) (topics : List TopicConfig) :
    ForwarderOptions where
  incomingTopicPatterns := compileRegexPatterns compile (incomingTopicPatterns topics)
  incomingVideoTopics := incomingVideoTopics topics
  preserveIdTopicPatterns := compileRegexPatterns compile (preserveIdTopicPatterns topics)

def isIncomingTopicAllowed (options : ForwarderOptions) (topicName : Bytes) : Bool :=
  matchesAnyPattern topicName options.incomingTopicPatterns

def inboundTopicName (preserveId : Bool) (publisherIdentity trackName : Bytes) : Option Bytes :=
  if preserveId then liveKitToRosTopicNameOf publisherIdentity trackName else liveKitToRosTopicName trackName

/-- The name `onDataTrackPublished` publishes on, once the type is known and its schema valid. -/
def dataTrackTopic (options : ForwarderOptions) (publisherIdentity trackName : Bytes) : Option Bytes :=
  match normalizeTrackTopicName trackName with
  | none => none
  | some normalized =>
      if isIncomingTopicAllowed options normalized then
        inboundTopicName (matchesAnyPattern normalized options.preserveIdTopicPatterns) publisherIdentity
          trackName
      else none

def resolveInboundVideoTopic (options : ForwarderOptions) (publisherIdentity trackName : Bytes) :
    Option Bytes :=
  match normalizeTrackTopicName trackName with
  | none => none
  | some normalized =>
      match options.incomingVideoTopics.lookup normalized with
      | none => none
      | some preserveId => inboundTopicName preserveId publisherIdentity trackName

def TopicConfig.names (config : TopicConfig) (name : Bytes) : Bool :=
  config.inbound && !config.latched && normalizeTrackTopicName config.topic = some name

def TopicConfig.preserves (compile : Bytes → Option (Bytes → Bool)) (config : TopicConfig) (name : Bytes) :
    Bool :=
  config.inbound && config.preserveId && (compile config.topic).any (· name)

section Lookup

theorem matchesAny_preserveId (compile : Bytes → Option (Bytes → Bool)) (topics : List TopicConfig)
    (name : Bytes) :
    matchesAnyPattern name (topicForwarderOptions compile topics).preserveIdTopicPatterns =
      topics.any fun config => config.preserves compile name := by
  simp only [matchesAnyPattern, topicForwarderOptions, compileRegexPatterns, preserveIdTopicPatterns,
    List.any_filterMap, List.any_map, List.any_filter]
  rfl

theorem lookup_emplace (videoTopics : List (Bytes × Bool)) (name other : Bytes) (preserveId : Bool) :
    (emplace videoTopics name preserveId).lookup other =
      (videoTopics.lookup other).or (if other = name then some preserveId else none) := by
  unfold emplace
  split_ifs with present same same
  · subst same
    obtain ⟨known, found⟩ := Option.isSome_iff_exists.mp present
    simp [found]
  · simp
  · subst same
    simp [List.lookup_append]
  · simp [List.lookup_append, List.lookup_cons, beq_eq_false_iff_ne.mpr same]

theorem lookup_addVideoTopic (videoTopics : List (Bytes × Bool)) (config : TopicConfig) (name : Bytes) :
    (addVideoTopic videoTopics config).lookup name =
      (videoTopics.lookup name).or (if config.names name then some config.preserveId else none) := by
  unfold addVideoTopic TopicConfig.names
  by_cases ignored : (!config.inbound || config.latched) = true
  · rw [if_pos ignored, if_neg, Option.or_none]
    intro listed
    revert ignored listed
    cases config.inbound <;> cases config.latched <;> simp
  · rw [if_neg ignored]
    have listed : (config.inbound && !config.latched) = true := by
      revert ignored
      cases config.inbound <;> cases config.latched <;> simp
    rw [listed, Bool.true_and]
    cases normalizeTrackTopicName config.topic with
    | none => simp
    | some known => simp [lookup_emplace, eq_comm]

theorem lookup_foldl (topics : List TopicConfig) (videoTopics : List (Bytes × Bool)) (name : Bytes) :
    (topics.foldl addVideoTopic videoTopics).lookup name =
      (videoTopics.lookup name).or ((topics.find? (·.names name)).map TopicConfig.preserveId) := by
  induction topics generalizing videoTopics with
  | nil => simp
  | cons config topics ih =>
      rw [List.foldl_cons, ih, lookup_addVideoTopic, Option.or_assoc, List.find?_cons]
      cases config.names name <;> simp

theorem lookup_incomingVideoTopics (topics : List TopicConfig) (name : Bytes) :
    (incomingVideoTopics topics).lookup name = (topics.find? (·.names name)).map TopicConfig.preserveId := by
  rw [incomingVideoTopics, lookup_foldl]
  simp

end Lookup

section Names

variable {publisherIdentity trackName topic : Bytes}

theorem prefixed_ne (plain : liveKitToRosTopicName trackName = some topic) :
    liveKitToRosTopicNameOf publisherIdentity trackName ≠ some topic := by
  intro preserved
  obtain ⟨token, rest, _, normalized, rfl⟩ := liveKitToRosTopicNameOf_parts preserved
  rw [liveKitToRosTopicName_eq plain] at normalized
  have lengths := congrArg List.length (Option.some.inj normalized)
  simp only [List.cons_append, List.length_cons, List.length_append] at lengths
  omega

theorem inboundTopicName_eq_iff {first second : Bool}
    (found : inboundTopicName first publisherIdentity trackName = some topic) :
    inboundTopicName second publisherIdentity trackName = some topic ↔ second = first := by
  constructor
  · intro same
    cases first <;> cases second
    · rfl
    · exact absurd same (prefixed_ne found)
    · exact absurd found (prefixed_ne same)
    · rfl
  · rintro rfl
    exact found

/-- The two paths name a track alike exactly when the first entry with its name has
`preserve_id` if and only if some inbound entry with `preserve_id` matches it. -/
theorem tracks_named_alike_iff {compile : Bytes → Option (Bytes → Bool)} {topics : List TopicConfig}
    {normalized : Bytes} (named : normalizeTrackTopicName trackName = some normalized)
    (allowed : isIncomingTopicAllowed (topicForwarderOptions compile topics) normalized = true)
    (video : resolveInboundVideoTopic (topicForwarderOptions compile topics) publisherIdentity trackName =
      some topic) :
    dataTrackTopic (topicForwarderOptions compile topics) publisherIdentity trackName = some topic ↔
      ∀ entry, topics.find? (·.names normalized) = some entry →
        (entry.preserveId = true ↔ ∃ config ∈ topics, config.preserves compile normalized = true) := by
  have listed : (topicForwarderOptions compile topics).incomingVideoTopics.lookup normalized =
      (topics.find? (·.names normalized)).map TopicConfig.preserveId := lookup_incomingVideoTopics topics normalized
  simp only [resolveInboundVideoTopic, named, listed] at video
  cases first : topics.find? (·.names normalized) with
  | none => simp [first] at video
  | some entry =>
      simp only [first, Option.map_some] at video
      simp only [dataTrackTopic, named, allowed, if_true, inboundTopicName_eq_iff video,
        matchesAny_preserveId, Option.some.injEq, forall_eq']
      rw [Bool.eq_iff_iff, List.any_eq_true]
      exact Iff.comm

end Names

section Overlap

/-- Regular expressions without metacharacters, but for `.*` at the end. -/
def prefixOrLiteral (pattern : Bytes) : Option (Bytes → Bool) :=
  if pattern.drop (pattern.length - 2) = ascii ".*" then
    some fun value => (pattern.take (pattern.length - 2)).isPrefixOf value
  else some fun value => value = pattern

/-- All cameras keep their identity, but the front one has an entry of its own. -/
def overlappingTopics : List TopicConfig :=
  [{ topic := ascii "/camera/front", direction := .incoming },
    { topic := ascii "/camera/.*", direction := .incoming, preserveId := true }]

theorem overlapping_entries_name_differently :
    isIncomingTopicAllowed (topicForwarderOptions prefixOrLiteral overlappingTopics)
        (ascii "/camera/front") = true ∧
      resolveInboundVideoTopic (topicForwarderOptions prefixOrLiteral overlappingTopics) (ascii "robot")
        (ascii "/camera/front") = some (ascii "/camera/front") ∧
      dataTrackTopic (topicForwarderOptions prefixOrLiteral overlappingTopics) (ascii "robot")
        (ascii "/camera/front") = some (ascii "/robot/camera/front") := by
  decide +kernel

def frontTopics : List TopicConfig :=
  [{ topic := ascii "/camera/front", direction := .incoming, preserveId := true }]

theorem front_camera_named_alike :
    dataTrackTopic (topicForwarderOptions prefixOrLiteral frontTopics) (ascii "robot")
      (ascii "/camera/front") = some (ascii "/robot/camera/front") := by
  have named : normalizeTrackTopicName (ascii "/camera/front") = some (ascii "/camera/front") := by
    decide +kernel
  refine (tracks_named_alike_iff named (by decide +kernel) (by decide +kernel)).mpr ?_
  intro entry first
  have preserved : ∃ config ∈ frontTopics, config.preserves prefixOrLiteral (ascii "/camera/front") = true := by
    decide +kernel
  have same : (frontTopics.find? (·.names (ascii "/camera/front"))).map TopicConfig.preserveId = some true := by
    decide +kernel
  rw [first] at same
  exact iff_of_true (Option.some.inj same) preserved

end Overlap

end RosPortal.Naming
