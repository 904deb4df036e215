import RosPortal.Portal.Graph

/-! The room-bound forwarders: their outbound subscriptions and the inbound data
tracks. Creating a subscription succeeds. -/

set_option autoImplicit false

namespace RosPortal.Portal

/-- What the configuration fixes for the forwarders. -/
structure Options where
  outgoingTopicPatterns : List (String → Bool) := []
  outboundTopics : List String := []
  inboundTopics : List String := []
  inactiveSubscriptionGrace : Int := 30000000000

def kImageMsgType : String := "sensor_msgs/msg/Image"

def kCompressedImageMsgType : String := "sensor_msgs/msg/CompressedImage"

inductive Subscriber where
  | image
  | compressedImage
  | data (topicType : String)
deriving DecidableEq, Repr

/-- The inbound and outbound state of a `TopicForwarder`. The second list has the topics that were
found to have no publishers, with the time of that. -/
structure TopicForwarder where
  subscriptions : List (String × Subscriber) := []
  publishersAbsentSince : List (String × Int) := []
  inboundDataTrackStates : List String := []
deriving DecidableEq

namespace TopicForwarder

def needsGraphDiscovery (options : Options) : Bool := !options.outgoingTopicPatterns.isEmpty

def subscribed (forwarder : TopicForwarder) (topicName : String) : Bool :=
  forwarder.subscriptions.any fun subscription => subscription.1 = topicName

def createSubscriber (forwarder : TopicForwarder) (topicName topicType : String) : TopicForwarder :=
  let subscriber : Subscriber :=
    if topicType = kImageMsgType then .image
    else if topicType = kCompressedImageMsgType then .compressedImage
    else .data topicType
  { forwarder with subscriptions := (topicName, subscriber) :: forwarder.subscriptions }

/-- The first loop of `reconcileTopics`. -/
def markAbsent (now : Int) (publisherCount : String → Nat) (forwarder : TopicForwarder) : TopicForwarder :=
  { forwarder with
    publishersAbsentSince := forwarder.subscriptions.filterMap fun subscription =>
      if publisherCount subscription.1 = 0 then
        some (subscription.1, (forwarder.publishersAbsentSince.lookup subscription.1).getD now)
      else none }

/-- The body of the second loop. -/
def reconcileTopic (options : Options) (forwarder : TopicForwarder) (entry : String × List String) :
    TopicForwarder :=
  if forwarder.subscribed entry.1 then forwarder
  else if !matchesAnyPattern entry.1 options.outgoingTopicPatterns || isRmwBufferTopic entry.1 then
    forwarder
  else
    match entry.2 with
    | [] => forwarder
    | topicType :: _ => forwarder.createSubscriber entry.1 topicType

/-- The second loop. -/
def reconcileTopics (options : Options) (forwarder : TopicForwarder) (topics : TopicNamesAndTypes) :
    TopicForwarder :=
  topics.entries.foldl (reconcileTopic options) forwarder

/-- The grace period of an absence is over. -/
def expired (options : Options) (now since : Int) : Bool := !decide (now - since < options.inactiveSubscriptionGrace)

def reapExpiredSubscriptions (options : Options) (now : Int) (publisherCount : String → Nat)
    (forwarder : TopicForwarder) : TopicForwarder :=
  { forwarder with
    subscriptions := forwarder.subscriptions.filter fun subscription =>
      !((forwarder.publishersAbsentSince.lookup subscription.1).any fun since =>
        publisherCount subscription.1 = 0 && expired options now since)
    publishersAbsentSince := forwarder.publishersAbsentSince.filter fun absence =>
      publisherCount absence.1 = 0 && !expired options now absence.2 }

def forwards (options : Options) (entry : String × List String) : Bool :=
  !entry.2.isEmpty && matchesAnyPattern entry.1 options.outgoingTopicPatterns &&
    !isRmwBufferTopic entry.1

@[simp] theorem subscribed_markAbsent (forwarder : TopicForwarder) (now : Int) (publisherCount : String → Nat)
    (topicName : String) : (forwarder.markAbsent now publisherCount).subscribed topicName = forwarder.subscribed topicName :=
  rfl

@[simp] theorem subscribed_createSubscriber (forwarder : TopicForwarder)
    (topicName topicType other : String) :
    (forwarder.createSubscriber topicName topicType).subscribed other =
      (decide (topicName = other) || forwarder.subscribed other) := by
  simp [createSubscriber, subscribed]

theorem reconcileTopic_keeps {options : Options} {forwarder : TopicForwarder} {topicName : String}
    (entry : String × List String) (held : forwarder.subscribed topicName = true) :
    (reconcileTopic options forwarder entry).subscribed topicName = true := by
  unfold reconcileTopic
  split
  · exact held
  · split
    · exact held
    · split
      · exact held
      · simp [held]

theorem reconcileTopic_subscribes {options : Options} (forwarder : TopicForwarder)
    {entry : String × List String} (wanted : forwards options entry = true) :
    (reconcileTopic options forwarder entry).subscribed entry.1 = true := by
  obtain ⟨topicName, types⟩ := entry
  simp only [forwards, Bool.and_eq_true, Bool.not_eq_true', List.isEmpty_eq_false_iff] at wanted
  obtain ⟨⟨typed, matching⟩, ordinary⟩ := wanted
  cases types with
  | nil => exact absurd rfl typed
  | cons topicType types =>
      by_cases held : forwarder.subscribed topicName = true
      · simp [reconcileTopic, held]
      · simp [reconcileTopic, held, matching, ordinary]

theorem foldl_reconcileTopic_keeps {options : Options} {topicName : String}
    (entries : List (String × List String)) {forwarder : TopicForwarder}
    (held : forwarder.subscribed topicName = true) :
    (entries.foldl (reconcileTopic options) forwarder).subscribed topicName = true := by
  induction entries generalizing forwarder with
  | nil => exact held
  | cons entry entries ih => exact ih (reconcileTopic_keeps entry held)

theorem foldl_reconcileTopic_subscribes {options : Options} {entry : String × List String}
    {entries : List (String × List String)} (forwarder : TopicForwarder) (listed : entry ∈ entries)
    (wanted : forwards options entry = true) :
    (entries.foldl (reconcileTopic options) forwarder).subscribed entry.1 = true := by
  induction entries generalizing forwarder with
  | nil => cases listed
  | cons head entries ih =>
      rcases List.mem_cons.mp listed with rfl | later
      · exact foldl_reconcileTopic_keeps entries (reconcileTopic_subscribes forwarder wanted)
      · exact ih _ later

theorem reconcileTopics_subscribes {options : Options} {forwarder : TopicForwarder}
    {topics : TopicNamesAndTypes} {entry : String × List String} (listed : entry ∈ topics.entries)
    (wanted : forwards options entry = true) :
    (forwarder.reconcileTopics options topics).subscribed entry.1 = true :=
  foldl_reconcileTopic_subscribes forwarder listed wanted

theorem reconcileTopic_inbound (options : Options) (forwarder : TopicForwarder)
    (entry : String × List String) :
    (reconcileTopic options forwarder entry).inboundDataTrackStates =
      forwarder.inboundDataTrackStates := by
  unfold reconcileTopic createSubscriber
  repeat' split
  all_goals rfl

@[simp] theorem reconcileTopics_inbound (options : Options) (forwarder : TopicForwarder)
    (topics : TopicNamesAndTypes) :
    (forwarder.reconcileTopics options topics).inboundDataTrackStates =
      forwarder.inboundDataTrackStates := by
  unfold reconcileTopics
  induction topics.entries generalizing forwarder with
  | nil => rfl
  | cons entry entries ih => exact (ih _).trans (reconcileTopic_inbound options forwarder entry)

end TopicForwarder

/-- Why `onDataTrackPublished` ignores a track, in the order of its checks. -/
inductive Rejection where
  | emptySid
  | emptyTrackName
  | noIncomingPattern
  | unresolvedType
  | invalidSchema
  | unresolvedTopicName
  | noSubscribeCallback
  | noFrameEncoding
  | noPublisher
  | subscribeFailed
  | invalidStream
  | noReaderThread
deriving DecidableEq, Repr

namespace TopicForwarder

/-- `onDataTrackPublished`: a track that passes every check is held until it is
unpublished. The outcome of the checks is an input; a track that is already held
is left as it is. -/
def onDataTrackPublished (forwarder : TopicForwarder) (sid : String) (rejection : Option Rejection) :
    TopicForwarder :=
  match rejection with
  | some _ => forwarder
  | none =>
      if sid ∈ forwarder.inboundDataTrackStates then forwarder
      else { forwarder with inboundDataTrackStates := sid :: forwarder.inboundDataTrackStates }

def onDataTrackUnpublished (forwarder : TopicForwarder) (sid : String) : TopicForwarder :=
  { forwarder with
    inboundDataTrackStates := forwarder.inboundDataTrackStates.filter fun held => held ≠ sid }

end TopicForwarder

/-- The outbound subscriptions of a `LatchedTopicForwarder`. -/
structure LatchedTopicForwarder where
  subscriptions : List (String × String) := []
deriving DecidableEq

namespace LatchedTopicForwarder

def needsGraphDiscovery (options : Options) : Bool := !options.outboundTopics.isEmpty

def subscribed (forwarder : LatchedTopicForwarder) (topicName : String) : Bool :=
  forwarder.subscriptions.any fun subscription => subscription.1 = topicName

def createOutboundSubscription (forwarder : LatchedTopicForwarder) (topicName topicType : String) :
    LatchedTopicForwarder :=
  { forwarder with subscriptions := (topicName, topicType) :: forwarder.subscriptions }

/-- The body of the loop of `reconcileTopics`. -/
def reconcileTopic (topics : TopicNamesAndTypes) (forwarder : LatchedTopicForwarder)
    (topicName : String) : LatchedTopicForwarder :=
  if forwarder.subscribed topicName then forwarder
  else
    match topics.find topicName with
    | none | some [] => forwarder
    | some (topicType :: _) => forwarder.createOutboundSubscription topicName topicType

def reconcileTopics (options : Options) (forwarder : LatchedTopicForwarder)
    (topics : TopicNamesAndTypes) : LatchedTopicForwarder :=
  options.outboundTopics.foldl (reconcileTopic topics) forwarder

@[simp] theorem subscribed_createOutboundSubscription (forwarder : LatchedTopicForwarder)
    (topicName topicType other : String) :
    (forwarder.createOutboundSubscription topicName topicType).subscribed other =
      (decide (topicName = other) || forwarder.subscribed other) := by
  simp [createOutboundSubscription, subscribed]

theorem reconcileTopic_keeps {topics : TopicNamesAndTypes} {forwarder : LatchedTopicForwarder}
    {held : String} (topicName : String) (subscribed : forwarder.subscribed held = true) :
    (reconcileTopic topics forwarder topicName).subscribed held = true := by
  unfold reconcileTopic
  split
  · exact subscribed
  · split
    · exact subscribed
    · exact subscribed
    · simp [subscribed]

theorem foldl_reconcileTopic_keeps {topics : TopicNamesAndTypes} {held : String}
    (names : List String) {forwarder : LatchedTopicForwarder}
    (subscribed : forwarder.subscribed held = true) :
    (names.foldl (reconcileTopic topics) forwarder).subscribed held = true := by
  induction names generalizing forwarder with
  | nil => exact subscribed
  | cons name names ih => exact ih (reconcileTopic_keeps name subscribed)

theorem reconcileTopic_subscribes {topics : TopicNamesAndTypes} (forwarder : LatchedTopicForwarder)
    {topicName topicType : String} {types : List String}
    (found : topics.find topicName = some (topicType :: types)) :
    (reconcileTopic topics forwarder topicName).subscribed topicName = true := by
  by_cases held : forwarder.subscribed topicName = true
  · simp [reconcileTopic, held]
  · simp [reconcileTopic, held, found]

theorem foldl_reconcileTopic_subscribes {topics : TopicNamesAndTypes} {names : List String}
    (forwarder : LatchedTopicForwarder) {topicName topicType : String} {types : List String}
    (configured : topicName ∈ names) (found : topics.find topicName = some (topicType :: types)) :
    (names.foldl (reconcileTopic topics) forwarder).subscribed topicName = true := by
  induction names generalizing forwarder with
  | nil => cases configured
  | cons name names ih =>
      rcases List.mem_cons.mp configured with rfl | later
      · exact foldl_reconcileTopic_keeps names (reconcileTopic_subscribes forwarder found)
      · exact ih _ later

theorem reconcileTopics_subscribes {options : Options} {forwarder : LatchedTopicForwarder}
    {topics : TopicNamesAndTypes} {topicName : String} (configured : topicName ∈ options.outboundTopics)
    (listed : topics.contains topicName = true) (typed : topics.find topicName ≠ some []) :
    (forwarder.reconcileTopics options topics).subscribed topicName = true := by
  cases found : topics.find topicName with
  | none => simp [TopicNamesAndTypes.contains, found] at listed
  | some types =>
      cases types with
      | nil => exact absurd found typed
      | cons topicType types => exact foldl_reconcileTopic_subscribes forwarder configured found

end LatchedTopicForwarder

end RosPortal.Portal
