import Mathlib.Data.List.Dedup
import Mathlib.Data.List.Sort
import Mathlib.Data.String.Basic
import RosPortal.Discovery.Loop
import RosPortal.Portal.Forwarders

/-! The outbound subscriptions of the topic forwarder under the discovery worker: when
the publishers of one have gone, when it is reaped, and when it is made again. -/

set_option autoImplicit false

namespace RosPortal.Discovery

open Interleaving Portal

/-- A publisher of another node. Whether it matches the portal's subscription on its topic
is decided by its type and quality of service. -/
structure Publisher where
  topicName : String
  topicType : String
  matching : Bool := true
deriving DecidableEq, Repr

structure OutboundSubscription where
  topicName : String
  topicType : String
  publishersAbsentSince : Option Int := none
deriving DecidableEq, Repr

abbrev ForwarderOptions : Type := Options

/-- What there is when the worker reconciles or reaps: the time, the publishers, and the topics
that are subscribed. -/
structure Look where
  reaping : Bool
  now : Int
  publishers : List Publisher
  subscribed : List String
deriving DecidableEq, Repr

def Look.matched (topicName : String) (look : Look) : Bool :=
  look.publishers.any fun publisher => publisher.topicName = topicName && publisher.matching

/-- The endpoints of other nodes, the steady clock, and the subscriptions of the topic
forwarder. The looks of the worker, newest first, are recorded; no step reads them. -/
structure Ros where
  publishers : List Publisher := []
  subscribers : List (String × String) := []
  now : Int := 0
  subscriptions : List OutboundSubscription := []
  looks : List Look := []
deriving DecidableEq, Repr

def namesAndTypes (endpoints : List (String × String)) : TopicNamesAndTypes where
  entries := ((endpoints.map Prod.fst).dedup.insertionSort (· ≤ ·)).map fun name =>
    (name, ((endpoints.filter fun endpoint => endpoint.1 = name).map Prod.snd).dedup.insertionSort (· ≤ ·))
  sorted := by
    rw [List.pairwise_map]
    have ordered := List.pairwise_insertionSort (· ≤ ·) (endpoints.map Prod.fst).dedup
    have distinct := ((List.perm_insertionSort (· ≤ ·) _).nodup_iff).mpr (List.nodup_dedup (endpoints.map Prod.fst))
    exact (ordered.and distinct).imp fun both => lt_of_le_of_ne both.1 both.2

namespace Ros

/-- `get_topic_names_and_types()`, which counts the portal's own subscriptions. -/
def topicNamesAndTypes (ros : Ros) : TopicNamesAndTypes :=
  namesAndTypes (ros.publishers.map (fun publisher => (publisher.topicName, publisher.topicType)) ++
    ros.subscribers ++
    ros.subscriptions.map fun subscription => (subscription.topicName, subscription.topicType))

/-- `get_publisher_count()` of the portal's subscription on a topic. -/
def publisherCount (ros : Ros) (topicName : String) : Nat :=
  (ros.publishers.filter fun publisher => publisher.topicName = topicName && publisher.matching).length

def subscribed (ros : Ros) (topicName : String) : Bool :=
  ros.subscriptions.any fun subscription => subscription.topicName = topicName

/-- The first loop of `reconcileTopics`. -/
def markAbsent (ros : Ros) : Ros :=
  { ros with
    subscriptions := ros.subscriptions.map fun subscription =>
      { subscription with
        publishersAbsentSince :=
          if ros.publisherCount subscription.topicName = 0 then
            some (subscription.publishersAbsentSince.getD ros.now)
          else none } }

/-- The body of the second loop of `reconcileTopics`; making a subscription succeeds. -/
def reconcileTopic (options : ForwarderOptions) (ros : Ros) (entry : String × List String) : Ros :=
  if ros.subscribed entry.1 then ros
  else if !matchesAnyPattern entry.1 options.outgoingTopicPatterns || isRmwBufferTopic entry.1 then ros
  else
    match entry.2 with
    | [] => ros
    | topicType :: _ =>
        { ros with
          subscriptions := { topicName := entry.1, topicType := topicType } :: ros.subscriptions }

def reconcileTopics (options : ForwarderOptions) (ros : Ros) (topics : TopicNamesAndTypes) : Ros :=
  topics.entries.foldl (reconcileTopic options) ros.markAbsent

/-- What `reapExpiredSubscriptions` makes of a subscription. -/
def reapSubscription (options : ForwarderOptions) (ros : Ros) (subscription : OutboundSubscription) :
    Option OutboundSubscription :=
  match subscription.publishersAbsentSince with
  | none => some subscription
  | some since =>
      if 0 < ros.publisherCount subscription.topicName then
        some { subscription with publishersAbsentSince := none }
      else if ros.now - since < options.inactiveSubscriptionGrace then some subscription
      else none

def reapExpiredSubscriptions (options : ForwarderOptions) (ros : Ros) : Ros :=
  { ros with subscriptions := ros.subscriptions.filterMap (ros.reapSubscription options) }

def look (ros : Ros) (reaping : Bool) : Look where
  reaping
  now := ros.now
  publishers := ros.publishers
  subscribed := ros.subscriptions.map OutboundSubscription.topicName

/-- The record of a look, in what the worker makes of it. -/
def noteLook (after before : Ros) (reaping : Bool) : Ros := { after with looks := before.look reaping :: before.looks }

/-- When the subscriptions were last reaped. -/
def lastReap (ros : Ros) : Option Int := (ros.looks.find? Look.reaping).map Look.now

end Ros

/-- What happens outside the worker: the publishers or the subscriptions of other nodes
become others, or time passes. -/
inductive RosChange where
  | publishers (publishers : List Publisher)
  | subscribers (subscribers : List (String × String))
  | clock (elapsed : Nat)
deriving DecidableEq, Repr

def Ros.change (ros : Ros) : RosChange → Ros
  | .publishers publishers => { ros with publishers }
  | .subscribers subscribers => { ros with subscribers }
  | .clock elapsed => { ros with now := ros.now + elapsed }

/-- The callbacks of the portal with its room components started. -/
def forwarderCallbacks (options : ForwarderOptions) : Callbacks Ros RosChange TopicNamesAndTypes Unit where
  getTopicNamesAndTypes := Ros.topicNamesAndTypes
  getServiceNamesAndTypes _ := ()
  reconcileTopics ros topics := ((ros.reconcileTopics options topics).noteLook ros false, true)
  reapExpiredSubscriptions ros := (ros.reapExpiredSubscriptions options).noteLook ros true
  change := Ros.change

abbrev ForwarderState : Type := State Ros TopicNamesAndTypes Unit

def ForwarderOptions.forwardsTopic (options : ForwarderOptions) (topicName : String) : Bool :=
  matchesAnyPattern topicName options.outgoingTopicPatterns && !isRmwBufferTopic topicName

def Ros.AbsenceMarked (ros : Ros) : Prop :=
  ∀ subscription ∈ ros.subscriptions, ros.publisherCount subscription.topicName = 0 →
    subscription.publishersAbsentSince.isSome = true

/-- Every forwarded topic that has a publisher to match is subscribed. -/
def Ros.Subscribed (options : ForwarderOptions) (ros : Ros) : Prop :=
  ∀ publisher ∈ ros.publishers, publisher.matching = true →
    options.forwardsTopic publisher.topicName = true → ros.subscribed publisher.topicName = true

/-- No subscription was left at the last reaping whose grace period had elapsed by then. -/
def Ros.Reaped (options : ForwarderOptions) (ros : Ros) : Prop :=
  ∀ reaped ∈ ros.lastReap, ∀ subscription ∈ ros.subscriptions,
    ∀ since ∈ subscription.publishersAbsentSince, reaped < since + options.inactiveSubscriptionGrace

/-- Unmatched subscriptions are noticed and reaped, and reappearing topics subscribed. -/
structure Noticed (options : ForwarderOptions) (ros : Ros) : Prop where
  marked : ros.AbsenceMarked
  reaped : ros.Reaped options
  subscribed : ros.Subscribed options

/-- Every change of the graph by another node raises a graph event. -/
def Notified (_ : ForwarderState) : Label RosChange → Prop
  | .changed (.publishers _) notified | .changed (.subscribers _) notified => notified = true
  | _ => True

instance (state : ForwarderState) (label : Label RosChange) : Decidable (Notified state label) := by
  rcases label with _ | ⟨_ | _ | _, _⟩ | _ | _ | _ <;> dsimp only [Notified] <;> infer_instance

/-- The topic was subscribed when the worker last reconciled, and no look from then on has found a
publisher that matches. -/
def unmatchedSince (topicName : String) : List Look → Bool
  | [] => false
  | look :: earlier =>
      !look.matched topicName &&
        if look.reaping then unmatchedSince topicName earlier else decide (topicName ∈ look.subscribed)

/-- When the worker reconciled with no publisher on a subscribed topic, if no look has found one since. -/
def absentSince (topicName : String) : List Look → Option Int
  | [] => none
  | look :: earlier =>
      if look.matched topicName then none
      else if look.reaping then absentSince topicName earlier
      else if topicName ∈ look.subscribed then some ((absentSince topicName earlier).getD look.now)
      else none

/-- Since the worker last reconciled, it has not reaped when a topic had been without publishers for
the grace period. -/
def unexpiredSince (options : ForwarderOptions) (topicName : String) : List Look → Bool
  | [] => true
  | look :: earlier =>
      !look.reaping ||
        unexpiredSince options topicName earlier &&
          (look.matched topicName || (absentSince topicName earlier).all fun since =>
            decide (look.now - since < options.inactiveSubscriptionGrace))

/-- The shortcut is taken only when no subscribed topic has lost its last publisher since the worker
reconciled, and none that has one now was without for the grace period when it reaped. And no
subscription is made, with all events handled, on a topic that nothing publishes to it on. -/
def Control.attentive (options : ForwarderOptions) (state : ForwarderState) :
    Control TopicNamesAndTypes → Bool
  | .compare _ taken =>
      state.manager.event || state.manager.lastReconciledTopics ≠ some taken ||
        (state.world.subscriptions.all fun subscription =>
          state.world.publisherCount subscription.topicName ≠ 0 ||
            unmatchedSince subscription.topicName state.world.looks) &&
        taken.entries.all fun entry =>
          entry.2.isEmpty || !options.forwardsTopic entry.1 || state.world.publisherCount entry.1 = 0 ||
            unexpiredSince options entry.1 state.world.looks
  | .reconcile _ taken =>
      state.manager.event || taken.entries.all fun entry =>
        entry.2.isEmpty || !options.forwardsTopic entry.1 || state.world.subscribed entry.1 ||
          state.world.publisherCount entry.1 ≠ 0
  | _ => true

def Attentive (options : ForwarderOptions) (state : ForwarderState) (label : Label RosChange) : Prop :=
  Notified state label ∧ (label = .work → state.worker.attentive options state = true)

instance (options : ForwarderOptions) (state : ForwarderState) (label : Label RosChange) :
    Decidable (Attentive options state label) :=
  inferInstanceAs (Decidable (_ ∧ (_ → _)))

end RosPortal.Discovery
