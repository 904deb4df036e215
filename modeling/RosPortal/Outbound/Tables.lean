import Mathlib.Data.List.AList
import RosPortal.Discovery.Subscriptions
import RosPortal.Outbound.DataTopic
import RosPortal.Traversal.Keys
import RosPortal.Video.ImageTopic

/-! The three tables of outbound topics and the critical sections that change them. Time is in
nanoseconds of the steady clock, and the publishers that are counted are given by topic. -/

set_option autoImplicit false

namespace RosPortal.Outbound

open Portal Schema

/-- The period is that of a positive rate limit. -/
structure Options extends Discovery.ForwarderOptions where
  outboundMinPeriods : String → Option Int := fun _ => none
  outboundEncodings : String → Option OutboundEncoding := fun _ => none

/-- The factory that `createSubscriber` chooses for a type. -/
def subscriberFor (topicType : String) : Subscriber :=
  if topicType = kImageMsgType then .image
  else if topicType = kCompressedImageMsgType then .compressedImage
  else .data topicType

/-- `handle` is the kind of the subscription. The type it was discovered with, and when its
publishers were counted and how many there were, newest first, are recorded; no step reads
them. -/
structure OutboundSubscription where
  handle : Subscriber
  publishersAbsentSince : Option Int := none
  topicType : String
  observed : List (Int × Nat) := []
deriving DecidableEq, Repr

namespace OutboundSubscription

variable (subscription : OutboundSubscription) (now : Int) (publisherCount : Nat)

/-- `get_publisher_count()`. -/
def observe : OutboundSubscription :=
  { subscription with observed := (now, publisherCount) :: subscription.observed }

/-- The body of the first loop of `reconcileTopics`. -/
def mark : OutboundSubscription :=
  { subscription.observe now publisherCount with
    publishersAbsentSince :=
      if publisherCount = 0 then some (subscription.publishersAbsentSince.getD now) else none }

/-- What `reapExpiredSubscriptions` leaves of a subscription. -/
def reap (grace : Int) : Option OutboundSubscription :=
  match subscription.publishersAbsentSince with
  | none => some subscription
  | some since =>
      if 0 < publisherCount then
        some { subscription.observe now publisherCount with publishersAbsentSince := none }
      else if now - since < grace then some (subscription.observe now publisherCount)
      else none

end OutboundSubscription

structure ImageTopicState extends Video.ImageTopicState where
  jpegDecoder : Bool
deriving DecidableEq, Repr

/-- `images` are all image topic states there have been. The map and the callbacks share them
by position. -/
structure Tables where
  subscriptions : AList fun _ : String => OutboundSubscription := ∅
  dataTopicStates : AList fun _ : String => DataTopicState := ∅
  imageTopicStates : AList fun _ : String => Nat := ∅
  images : List ImageTopicState := []
deriving DecidableEq

/-- How making a subscription goes. Something may throw before anything is inserted, which
`reconcileTopics` does not catch; a `std::exception` after that is caught. -/
inductive Creation where
  | threw
  | failed
  | created
deriving DecidableEq, Repr

namespace Tables

variable (options : Options) (tables : Tables)

def subscribed (topicName : String) : Bool := (tables.subscriptions.lookup topicName).isSome

section Expiry

variable (now : Int) (publisherCount : String → Nat)

def markTopic (tables : Tables) (topicName : String) : Tables :=
  match tables.subscriptions.lookup topicName with
  | none => tables
  | some subscription =>
      { tables with
        subscriptions :=
          tables.subscriptions.insert topicName (subscription.mark now (publisherCount topicName)) }

/-- The first loop of `reconcileTopics`. -/
def markAbsent : Tables := tables.subscriptions.keys.foldl (markTopic now publisherCount) tables

/-- The body of the loop of `reapExpiredSubscriptions`, with its `removed`. -/
def reapTopic (reaped : Tables × Bool) (topicName : String) : Tables × Bool :=
  match reaped.1.subscriptions.lookup topicName with
  | none => reaped
  | some subscription =>
      match subscription.reap now (publisherCount topicName) options.inactiveSubscriptionGrace with
      | some kept =>
          ({ reaped.1 with subscriptions := reaped.1.subscriptions.insert topicName kept }, reaped.2)
      | none =>
          ({ reaped.1 with
              subscriptions := reaped.1.subscriptions.erase topicName
              dataTopicStates := reaped.1.dataTopicStates.erase topicName
              imageTopicStates := reaped.1.imageTopicStates.erase topicName }, true)

def reapExpiredSubscriptions : Tables × Bool :=
  tables.subscriptions.keys.foldl (reapTopic options now publisherCount) (tables, false)

def deadline (topicName : String) : Option Int :=
  ((tables.subscriptions.lookup topicName).bind OutboundSubscription.publishersAbsentSince).map
    (· + options.inactiveSubscriptionGrace)

/-- The body of the loop of `nextExpiryDeadline`. -/
def earlierDeadline (earliest : Option Int) (topicName : String) : Option Int :=
  match tables.deadline options topicName, earliest with
  | none, _ => earliest
  | some deadline, none => some deadline
  | some deadline, some known => if deadline < known then some deadline else some known

def nextExpiryDeadline : Option Int :=
  tables.subscriptions.keys.foldl (tables.earlierDeadline options) none

end Expiry

section Creating

variable (topicName : String)

/-- What `reconcileTopics` goes on to create a subscription with, if it does. -/
def wanted (entry : String × List String) : Option String :=
  if tables.subscribed entry.1 then none
  else if !matchesAnyPattern entry.1 options.outgoingTopicPatterns || isRmwBufferTopic entry.1 then none
  else entry.2.head?

/-- The setup of `createDataSubscriber`, with its roll-back. -/
def createDataSubscriber (topicType : String) (creation : Creation) : Tables :=
  if tables.subscribed topicName then tables
  else
    let state : DataTopicState :=
      { encoding := (options.outboundEncodings topicName).getD .ros2Msg
        minPeriod := options.outboundMinPeriods topicName }
    let inserted := { tables with dataTopicStates := tables.dataTopicStates.insert topicName state }
    match creation with
    | .threw => tables
    | .failed => { inserted with dataTopicStates := inserted.dataTopicStates.erase topicName }
    | .created =>
        { inserted with
          subscriptions := inserted.subscriptions.insert topicName { handle := .data topicType, topicType } }

def subscribeVideoTopic (topicType : String) (compressed : Bool) (creation : Creation) : Tables :=
  if tables.subscribed topicName then tables
  else
    let state : ImageTopicState := { trackName := topicName, jpegDecoder := compressed }
    let inserted :=
      { tables with
        images := tables.images ++ [state]
        imageTopicStates := tables.imageTopicStates.insert topicName tables.images.length }
    match creation with
    | .threw => tables
    | .failed => { inserted with imageTopicStates := inserted.imageTopicStates.erase topicName }
    | .created =>
        { inserted with
          subscriptions := inserted.subscriptions.insert topicName
            { handle := if compressed then .compressedImage else .image, topicType } }

def createSubscriber (topicType : String) (creation : Creation) : Tables :=
  match subscriberFor topicType with
  | .image => tables.subscribeVideoTopic topicName kImageMsgType false creation
  | .compressedImage => tables.subscribeVideoTopic topicName kCompressedImageMsgType true creation
  | .data _ => tables.createDataSubscriber options topicName topicType creation

end Creating

/-- The critical section of the data callback. -/
def admitSample (topicName : String) (now : Int) (attempt : WriterAttempt) : Tables :=
  match tables.dataTopicStates.lookup topicName with
  | none => tables
  | some state =>
      { tables with dataTopicStates := tables.dataTopicStates.insert topicName (state.enter now attempt).1 }

def findImageTopicState (topicName : String) : Option Nat := tables.imageTopicStates.lookup topicName

/-- A callback with the mutex of the image topic state makes its sink. -/
def ensureVideoSink (index : Nat) (publish : Video.PublishVideoTrack) (width height : Int) : Tables :=
  { tables with
    images := tables.images.modify index fun state =>
      { state with
        toImageTopicState := (state.toImageTopicState.ensureVideoSinkLocked publish width height).1 } }

end Tables

structure Topic where
  subscription : Option OutboundSubscription
  dataTopicState : Option DataTopicState
  imageTopicState : Option Nat
deriving DecidableEq, Repr

def Tables.topic (tables : Tables) (topicName : String) : Topic where
  subscription := tables.subscriptions.lookup topicName
  dataTopicState := tables.dataTopicStates.lookup topicName
  imageTopicState := tables.imageTopicStates.lookup topicName

namespace Topic

variable (topic : Topic) (now : Int) (publisherCount : Nat)

def mark : Topic :=
  { topic with subscription := topic.subscription.map fun subscription => subscription.mark now publisherCount }

def reap (grace : Int) : Topic :=
  match topic.subscription with
  | none => topic
  | some subscription =>
      match subscription.reap now publisherCount grace with
      | some kept => { topic with subscription := some kept }
      | none => ⟨none, none, none⟩

variable {topic now publisherCount}

theorem mark_absent (absent : topic.subscription = none) : topic.mark now publisherCount = topic := by
  obtain ⟨subscription, dataTopicState, imageTopicState⟩ := topic
  cases absent
  rfl

theorem reap_absent {grace : Int} (absent : topic.subscription = none) :
    topic.reap now publisherCount grace = topic := by
  simp only [reap, absent]

end Topic

section Loops

variable {options : Options} {tables : Tables} {now : Int} {publisherCount : String → Nat}

theorem mem_keys_iff {topicName : String} :
    topicName ∈ tables.subscriptions.keys ↔ (tables.topic topicName).subscription.isSome = true :=
  AList.mem_keys.symm.trans AList.lookup_isSome.symm

theorem subscribed_eq_false_iff {topicName : String} :
    tables.subscribed topicName = false ↔ (tables.topic topicName).subscription = none :=
  Option.isSome_eq_false_iff.trans Option.isNone_iff_eq_none

theorem markTopic_separate :
    KeyLoop.Separate Tables.topic (fun topicName topic => topic.mark now (publisherCount topicName))
      (Tables.markTopic now publisherCount) where
  here tables topicName := by
    simp only [Tables.markTopic]
    cases found : tables.subscriptions.lookup topicName with
    | none => simp [Tables.topic, Topic.mark, found]
    | some subscription => simp [Tables.topic, Topic.mark, found]
  elsewhere tables topicName other different := by
    simp only [Tables.markTopic]
    cases tables.subscriptions.lookup topicName with
    | none => rfl
    | some subscription => simp [Tables.topic, AList.lookup_insert_ne different]

theorem reapTopic_separate :
    KeyLoop.Separate (fun reaped => reaped.1.topic)
      (fun topicName topic => topic.reap now (publisherCount topicName) options.inactiveSubscriptionGrace)
      (Tables.reapTopic options now publisherCount) where
  here reaped topicName := by
    simp only [Tables.reapTopic]
    cases found : reaped.1.subscriptions.lookup topicName with
    | none => simp [Tables.topic, Topic.reap, found]
    | some subscription =>
        simp only [Tables.topic, Topic.reap, found]
        split <;> simp
  elsewhere reaped topicName other different := by
    simp only [Tables.reapTopic]
    cases reaped.1.subscriptions.lookup topicName with
    | none => rfl
    | some subscription =>
        dsimp only
        split
        · simp [Tables.topic, AList.lookup_insert_ne different]
        · simp [Tables.topic, AList.lookup_erase_ne different]

theorem topic_markAbsent (tables : Tables) (now : Int) (publisherCount : String → Nat)
    (topicName : String) :
    (tables.markAbsent now publisherCount).topic topicName =
      (tables.topic topicName).mark now (publisherCount topicName) := by
  by_cases present : topicName ∈ tables.subscriptions.keys
  · exact markTopic_separate.foldl tables.subscriptions.keys_nodup present tables
  · refine (markTopic_separate.untouched present tables).trans ?_
    rw [mem_keys_iff, Option.not_isSome_iff_eq_none] at present
    exact (Topic.mark_absent present).symm

theorem topic_reapExpiredSubscriptions (options : Options) (tables : Tables) (now : Int)
    (publisherCount : String → Nat) (topicName : String) :
    (tables.reapExpiredSubscriptions options now publisherCount).1.topic topicName =
      (tables.topic topicName).reap now (publisherCount topicName) options.inactiveSubscriptionGrace := by
  by_cases present : topicName ∈ tables.subscriptions.keys
  · exact reapTopic_separate.foldl tables.subscriptions.keys_nodup present (tables, false)
  · refine (reapTopic_separate.untouched present (tables, false)).trans ?_
    rw [mem_keys_iff, Option.not_isSome_iff_eq_none] at present
    exact (Topic.reap_absent present).symm

@[simp] theorem markAbsent_images : (tables.markAbsent now publisherCount).images = tables.images := by
  refine KeyLoop.foldl_constant Tables.images ?_ tables.subscriptions.keys tables
  intro tables topicName
  unfold Tables.markTopic
  split <;> rfl

@[simp] theorem reapExpiredSubscriptions_images :
    (tables.reapExpiredSubscriptions options now publisherCount).1.images = tables.images := by
  refine KeyLoop.foldl_constant (fun reaped : Tables × Bool => reaped.1.images) ?_
    tables.subscriptions.keys (tables, false)
  intro reaped topicName
  unfold Tables.reapTopic
  split
  · rfl
  · split <;> rfl

end Loops

end RosPortal.Outbound
