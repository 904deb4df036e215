import Mathlib.Data.List.AList
import RosPortal.Cli.Responses
import RosPortal.Interleaving.ThreadPool

/-! Concurrent publishes of single messages. The cache pins a topic to the type of the first
publisher that gets into it, but a publisher gets into it only after it has published. -/

set_option autoImplicit false

namespace RosPortal.Cli.TopicPub

open JsonText Interleaving

def maxCachedTopicPublishers : Nat := 20

/-- Publishers are told apart by numbers. -/
structure Entry where
  msgType : Bytes
  publisher : Nat
deriving DecidableEq, Repr

structure Publication where
  topic : Bytes
  msgType : Bytes
  publisher : Nat
deriving DecidableEq, Repr

/-- The cache. How many publishers there have been, the topics that the policy has allowed and
the messages that were published are recorded; no step depends on the latter two. -/
structure Shared where
  publishers : AList fun _ : Bytes => Entry := ∅
  cacheFullRejections : Nat := 0
  created : Nat := 0
  allowed : List Bytes := []
  published : List Publication := []

/-- Where a call of `publish` is; `cached` tells whether its publisher came from the cache. -/
inductive Control where
  | called (options : TopicPubOptions)
  | resolved (options : TopicPubOptions) (topic : Bytes)
  | permitted (options : TopicPubOptions) (topic : Bytes)
  | missed (options : TopicPubOptions) (topic : Bytes)
  | checked (options : TopicPubOptions) (topic : Bytes)
  | ready (options : TopicPubOptions) (topic : Bytes) (publisher : Nat) (cached : Bool)
  | published (options : TopicPubOptions) (topic : Bytes) (publisher : Nat)
  | returned (response : CliResponse)
  | threw (what : Bytes)
deriving DecidableEq, Repr

/-- What a call meets. The policy, the graph and the conversion of the payload may throw into
the caller. -/
inductive Choice where
  | resolve (resolvedTopic : Except Bytes Bytes)
  | askPolicy (allowed : Except Bytes Bool)
  | lookup
  | snapshot (topicNamesAndTypes : Except Bytes (List (Bytes × List Bytes)))
  | create (creation : Except Bytes Unit)
  | publish (serialized : Except Bytes (Except Bytes Unit)) (publishing : Except Bytes Unit)
  | insert

def topicTypeMatches (graphTypes : List Bytes) (msgType : Bytes) : Bool := graphTypes.contains msgType

def joinTypes (types : List Bytes) : Bytes := (ascii ", ").intercalate types

/-- The message of a topic that has another type than was asked for. -/
def otherType (topic verb found msgType : Bytes) : Bytes :=
  ascii "topic '" ++ topic ++ verb ++ found ++ ascii "', not '" ++ msgType ++ ascii "'"

/-- The first critical section: the type check, or a miss. -/
def lookupPublisher (shared : Shared) (options : TopicPubOptions) (topic : Bytes) : Shared × Control :=
  match shared.publishers.lookup topic with
  | some entry =>
      if entry.msgType ≠ options.msgType then
        (shared, .returned (failure
          (otherType topic (ascii "' is cached with type '") entry.msgType options.msgType)))
      else (shared, .ready options topic entry.publisher true)
  | none =>
      if maxCachedTopicPublishers ≤ shared.publishers.keys.length then
        ({ shared with cacheFullRejections := shared.cacheFullRejections + 1 },
          .returned (failure (ascii "topic publisher cache limit reached")))
      else (shared, .missed options topic)

/-- The second critical section: the publisher is cached, unless there is one by now. -/
def insertPublisher (shared : Shared) (options : TopicPubOptions) (topic : Bytes) (publisher : Nat) :
    Shared :=
  if shared.publishers.lookup topic = none ∧ shared.publishers.keys.length < maxCachedTopicPublishers then
    { shared with publishers := shared.publishers.insert topic ⟨options.msgType, publisher⟩ }
  else shared

def publishMessage (shared : Shared) (options : TopicPubOptions) (topic : Bytes) (publisher : Nat)
    (cached : Bool) : Except Bytes Unit → Except Bytes Unit → Shared × Control
  | .error yamlError, _ =>
      (shared, .returned (failure (ascii "failed to publish message: " ++ yamlError)))
  | .ok _, .error what => (shared, .returned (failure (ascii "failed to publish message: " ++ what)))
  | .ok _, .ok _ =>
      ({ shared with published := ⟨topic, options.msgType, publisher⟩ :: shared.published },
        if cached then .returned ⟨true, [], []⟩ else .published options topic publisher)

def checkSnapshot (options : TopicPubOptions) (topic : Bytes)
    (topicNamesAndTypes : List (Bytes × List Bytes)) : Control :=
  match topicNamesAndTypes.lookup topic with
  | none => .checked options topic
  | some types =>
      if types ≠ [] ∧ topicTypeMatches types options.msgType = false then
        .returned (failure (otherType topic (ascii "' has type(s) '") (joinTypes types) options.msgType))
      else .checked options topic

def advance (shared : Shared) : Control → Choice → Option (Shared × Control)
  | .called _, .resolve (.error what) => some (shared, .returned (failure what))
  | .called options, .resolve (.ok topic) => some (shared, .resolved options topic)
  | .resolved _ _, .askPolicy (.error what) => some (shared, .threw what)
  | .resolved _ topic, .askPolicy (.ok false) =>
      some (shared, .returned (failure
        (ascii "topic '" ++ topic ++ ascii "' is not allowed for publishing")))
  | .resolved options topic, .askPolicy (.ok true) =>
      some ({ shared with allowed := topic :: shared.allowed }, .permitted options topic)
  | .permitted options topic, .lookup => some (lookupPublisher shared options topic)
  | .missed _ _, .snapshot (.error what) => some (shared, .threw what)
  | .missed options topic, .snapshot (.ok topicNamesAndTypes) =>
      some (shared, checkSnapshot options topic topicNamesAndTypes)
  | .checked _ _, .create (.error what) =>
      some (shared, .returned (failure (ascii "failed to create publisher: " ++ what)))
  | .checked options topic, .create (.ok _) =>
      some ({ shared with created := shared.created + 1 }, .ready options topic shared.created false)
  | .ready _ _ _ _, .publish (.error what) _ => some (shared, .threw what)
  | .ready options topic publisher cached, .publish (.ok serialized) publishing =>
      some (publishMessage shared options topic publisher cached serialized publishing)
  | .published options topic publisher, .insert =>
      some (insertPublisher shared options topic publisher, .returned ⟨true, [], []⟩)
  | _, _ => none

def program : Program Shared Control Choice := ⟨advance⟩

def initial (requests : List TopicPubOptions) : Pool Shared Control := ⟨{}, requests.map .called⟩

/-- The topic and the type of a publisher that has published but is not cached yet. -/
def Control.uncached? : Control → Option (Bytes × Bytes)
  | .published options topic _ => some (topic, options.msgType)
  | _ => none

/-- The topic and the type of a message about to be published by a publisher of its own. -/
def Control.unpinned? : Control → Option (Bytes × Bytes)
  | .ready options topic _ false => some (topic, options.msgType)
  | _ => none

def Choice.succeeds : Choice → Bool
  | .publish (.ok (.ok _)) (.ok _) => true
  | _ => false

/-- A publisher of its own publishes only while the cache has the topic with no other type, and
no publisher of another type has published to the topic and is still to be cached. -/
def Unrivalled (pool : Pool Shared Control) (label : Nat × Choice) : Prop :=
  ∀ control ∈ pool.threads[label.1]?, ∀ message ∈ control.unpinned?, label.2.succeeds = true →
    (∀ entry ∈ pool.shared.publishers.lookup message.1, entry.msgType = message.2) ∧
      ∀ other ∈ pool.threads, ∀ rival ∈ other.uncached?, rival.1 = message.1 → rival.2 = message.2

instance (pool : Pool Shared Control) (label : Nat × Choice) : Decidable (Unrivalled pool label) :=
  inferInstanceAs (Decidable (∀ control ∈ pool.threads[label.1]?, ∀ message ∈ control.unpinned?, _))

def OneType (shared : Shared) : Prop :=
  ∀ first ∈ shared.published, ∀ second ∈ shared.published, first.topic = second.topic →
    first.msgType = second.msgType

instance (shared : Shared) : Decidable (OneType shared) :=
  inferInstanceAs (Decidable (∀ first ∈ shared.published, ∀ second ∈ shared.published, _))

def publishedTopics (shared : Shared) : List Bytes := (shared.published.map Publication.topic).dedup

end RosPortal.Cli.TopicPub
