import RosPortal.Latched.Network

/-! Which topics of a configuration go over data tracks and which are latched. An entry is
latched by its literal name, and forwarded by its pattern. -/

set_option autoImplicit false

namespace RosPortal.Latched

open RosPortal.Portal (TopicForwarder TopicNamesAndTypes Subscriber matchesAnyPattern isRmwBufferTopic)

/-- `std::regex`: a pattern that is well formed compiles to the names that match it as a whole. -/
abbrev Regex : Type := String → Option (String → Bool)

def outgoingTopicPatterns (topics : List TopicConfig) : List String :=
  (topics.filter fun config => !config.latched && config.direction ≠ .incoming).map TopicConfig.topic

def incomingTopicPatterns (topics : List TopicConfig) : List String :=
  (topics.filter fun config => !config.latched && config.direction ≠ .outgoing).map TopicConfig.topic

section Options

variable (regex : Regex) (topics : List TopicConfig)

/-- `compileAndLog`, which leaves out patterns that are not well formed. -/
def compileRegexPatterns (patterns : List String) : List (String → Bool) := patterns.filterMap regex

/-- The part of the options that `reconcileTopics` reads. -/
def topicForwarderOptions : RosPortal.Portal.Options :=
  { outgoingTopicPatterns := compileRegexPatterns regex (outgoingTopicPatterns topics) }

def isIncomingTopicAllowed (topicName : String) : Bool :=
  matchesAnyPattern topicName (compileRegexPatterns regex (incomingTopicPatterns topics))

/-- The topic has a subscription that forwards to a data track. -/
def dataSubscribed (forwarder : TopicForwarder) (topicName : String) : Prop :=
  ∃ topicType, (topicName, Subscriber.data topicType) ∈ forwarder.subscriptions

/-- A forwarder that has been reconciled with some snapshots of the graph. -/
def reconciledWith (snapshots : List TopicNamesAndTypes) : TopicForwarder :=
  snapshots.foldl (TopicForwarder.reconcileTopics (topicForwarderOptions regex topics)) {}

/-- A latched topic is neither sent nor accepted as a data track. -/
structure OffDataTracks (topicName : String) : Prop where
  outbound : topicName ∈ (latchedTopicForwarderOptions topics).outboundTopics →
    ∀ snapshots, ¬ dataSubscribed (reconciledWith regex topics snapshots) topicName
  inbound : topicName ∈ (latchedTopicForwarderOptions topics).inboundTopics →
    isIncomingTopicAllowed regex topics topicName = false

def TopicConfig.matchesName (config : TopicConfig) (topicName : String) : Bool :=
  (regex config.topic).any fun pattern => pattern topicName

/-- The patterns of the entries that are not latched leave the topic out. -/
structure LeftToLatching (topicName : String) : Prop where
  outbound : topicName ∈ (latchedTopicForwarderOptions topics).outboundTopics →
    isRmwBufferTopic topicName = false → ∀ config ∈ topics, config.latched = false →
      config.direction ≠ .incoming → config.matchesName regex topicName = false
  inbound : topicName ∈ (latchedTopicForwarderOptions topics).inboundTopics →
    ∀ config ∈ topics, config.latched = false → config.direction ≠ .outgoing →
      config.matchesName regex topicName = false

end Options

section Patterns

variable {regex : Regex} {topics : List TopicConfig} {topicName : String}

theorem matchesAnyPattern_compiled (entries : List TopicConfig) :
    matchesAnyPattern topicName (compileRegexPatterns regex (entries.map TopicConfig.topic)) =
      entries.any fun config => config.matchesName regex topicName := by
  rw [matchesAnyPattern, compileRegexPatterns, List.any_filterMap, List.any_map]
  apply congrArg (entries.any ·)
  funext config
  simp only [Function.comp_apply, TopicConfig.matchesName]
  cases regex config.topic with
  | none => rfl
  | some pattern => rfl

theorem matches_outgoing_iff :
    matchesAnyPattern topicName (topicForwarderOptions regex topics).outgoingTopicPatterns = false ↔
      ∀ config ∈ topics, config.latched = false → config.direction ≠ .incoming →
        config.matchesName regex topicName = false := by
  simp only [topicForwarderOptions, outgoingTopicPatterns, matchesAnyPattern_compiled, List.any_eq_false,
    List.mem_filter, Bool.and_eq_true, Bool.not_eq_true', decide_eq_true_eq, Bool.not_eq_true, and_imp]

theorem isIncomingTopicAllowed_iff :
    isIncomingTopicAllowed regex topics topicName = false ↔
      ∀ config ∈ topics, config.latched = false → config.direction ≠ .outgoing →
        config.matchesName regex topicName = false := by
  simp only [isIncomingTopicAllowed, incomingTopicPatterns, matchesAnyPattern_compiled,
    List.any_eq_false, List.mem_filter, Bool.and_eq_true, Bool.not_eq_true', decide_eq_true_eq,
    Bool.not_eq_true, and_imp]

end Patterns

section Subscriptions

variable {options : RosPortal.Portal.Options} {forwarder : TopicForwarder} {topicName : String}

/-- Whatever is subscribed, its name matches a pattern. -/
def Matching (options : RosPortal.Portal.Options) (forwarder : TopicForwarder) : Prop :=
  ∀ subscription ∈ forwarder.subscriptions,
    matchesAnyPattern subscription.1 options.outgoingTopicPatterns = true ∧
      isRmwBufferTopic subscription.1 = false

theorem Matching.reconcileTopic (matching : Matching options forwarder) (entry : String × List String) :
    Matching options (TopicForwarder.reconcileTopic options forwarder entry) := by
  obtain ⟨name, types⟩ := entry
  unfold TopicForwarder.reconcileTopic
  split
  · exact matching
  · split
    case isTrue => exact matching
    case isFalse forwarded =>
      simp only [Bool.or_eq_true, Bool.not_eq_true', not_or, Bool.not_eq_true,
        Bool.not_eq_false] at forwarded
      cases types with
      | nil => exact matching
      | cons topicType types =>
          intro subscription member
          rcases List.mem_cons.mp member with rfl | old
          · exact forwarded
          · exact matching subscription old

theorem Matching.reconcileTopics (matching : Matching options forwarder) (topics : TopicNamesAndTypes) :
    Matching options (forwarder.reconcileTopics options topics) := by
  have loop : ∀ entries : List (String × List String), ∀ start, Matching options start →
      Matching options (entries.foldl (TopicForwarder.reconcileTopic options) start) := by
    intro entries
    induction entries with
    | nil => exact fun start holds => holds
    | cons entry entries ih => exact fun start holds => ih _ (holds.reconcileTopic entry)
  exact loop topics.entries forwarder matching

theorem matching_foldl (snapshots : List TopicNamesAndTypes) (forwarder : TopicForwarder)
    (matching : Matching options forwarder) :
    Matching options (snapshots.foldl (TopicForwarder.reconcileTopics options) forwarder) := by
  induction snapshots generalizing forwarder with
  | nil => exact matching
  | cons snapshot snapshots ih => exact ih _ (matching.reconcileTopics snapshot)

def singleTopic (topicName topicType : String) : TopicNamesAndTypes where
  entries := [(topicName, [topicType])]
  sorted := List.pairwise_singleton _ _

end Subscriptions

/-- Latched topics are off the data tracks exactly when no other entry's pattern matches them. -/
theorem offDataTracks_iff (regex : Regex) (topics : List TopicConfig) (topicName : String) :
    OffDataTracks regex topics topicName ↔ LeftToLatching regex topics topicName := by
  constructor
  · intro off
    refine ⟨?_, fun latched => isIncomingTopicAllowed_iff.mp (off.inbound latched)⟩
    intro latched ordinary
    rw [← matches_outgoing_iff, ← Bool.not_eq_true]
    intro matched
    apply off.outbound latched [singleTopic topicName "std_msgs/msg/String"]
    refine ⟨"std_msgs/msg/String", ?_⟩
    have created : reconciledWith regex topics [singleTopic topicName "std_msgs/msg/String"] =
        { subscriptions := [(topicName, .data "std_msgs/msg/String")] } := by
      simp [reconciledWith, TopicForwarder.reconcileTopics, singleTopic, TopicForwarder.reconcileTopic,
        TopicForwarder.subscribed, matched, ordinary, TopicForwarder.createSubscriber,
        RosPortal.Portal.kImageMsgType, RosPortal.Portal.kCompressedImageMsgType]
    rw [created]
    exact List.mem_singleton_self _
  · intro left
    refine ⟨?_, fun latched => isIncomingTopicAllowed_iff.mpr (left.inbound latched)⟩
    intro latched snapshots forwarded
    obtain ⟨topicType, subscribed⟩ := forwarded
    have initially : Matching (topicForwarderOptions regex topics) {} :=
      fun subscription member => by cases member
    have matching := matching_foldl snapshots {} initially
    obtain ⟨matched, ordinary⟩ := matching _ subscribed
    rw [matches_outgoing_iff.mpr (left.outbound latched ordinary)] at matched
    cases matched

/-- Patterns without special characters, and the one that matches every name of one line. -/
def plainRegex : Regex := fun pattern =>
  if pattern = ".*" then some fun name => name.toList.all fun character => character ≠ '\n'
  else some fun name => name = pattern

/-- A topic that is latched next to the catch-all pattern is also sent as a data track. -/
theorem catch_all_forwards_latched_topic :
    ¬ ∀ (regex : Regex) (topics : List TopicConfig) (topicName : String),
      OffDataTracks regex topics topicName := by
  intro off
  have latched := (off plainRegex [⟨".*", .bidirectional, false⟩, ⟨"/tf_static", .outgoing, true⟩]
    "/tf_static").outbound (by decide +kernel) [singleTopic "/tf_static" "tf2_msgs/msg/TFMessage"]
  exact latched ⟨"tf2_msgs/msg/TFMessage", by decide +kernel⟩

end RosPortal.Latched
