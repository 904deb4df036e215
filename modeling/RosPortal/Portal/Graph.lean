import Mathlib.Data.List.Basic

/-! Snapshots of the ROS topic graph and the state of the graph manager. -/

set_option autoImplicit false

namespace RosPortal.Portal

/-- `TopicNamesAndTypes`, an ordered map: the entries in the order of iteration, so
that two maps are equal when their entries are. -/
structure TopicNamesAndTypes where
  entries : List (String × List String)
  sorted : entries.Pairwise fun first second => first.1 < second.1
deriving DecidableEq

namespace TopicNamesAndTypes

def find (topics : TopicNamesAndTypes) (name : String) : Option (List String) :=
  topics.entries.lookup name

/-- `topics.count(name) > 0`. -/
def contains (topics : TopicNamesAndTypes) (name : String) : Bool := (topics.find name).isSome

end TopicNamesAndTypes

def lastSegment (topicName : String) : List Char :=
  (topicName.toList.reverse.takeWhile (· ≠ '/')).reverse

def isRmwBufferTopic (topicName : String) : Bool :=
  "_buf_".toList.isPrefixOf (lastSegment topicName)

/-- A compiled pattern is the function that matches it against a whole name. -/
def matchesAnyPattern (topicName : String) (patterns : List (String → Bool)) : Bool :=
  patterns.any fun pattern => pattern topicName

/-- The members of `GraphManager` that topic reconciliation reads, with the event's flag. -/
structure GraphManager where
  topics : Option TopicNamesAndTypes := none
  lastReconciledTopics : Option TopicNamesAndTypes := none
  event : Bool := false
deriving DecidableEq

namespace GraphManager

def invalidate (manager : GraphManager) : GraphManager := { manager with topics := none }

/-- `topics()`: the cached snapshot, or the current graph, which is then cached. -/
def snapshot (manager : GraphManager) (graph : TopicNamesAndTypes) : TopicNamesAndTypes :=
  manager.topics.getD graph

def cacheSnapshot (manager : GraphManager) (graph : TopicNamesAndTypes) : GraphManager :=
  { manager with topics := some (manager.snapshot graph) }

def clearEvent (manager : GraphManager) : GraphManager := { manager with event := false }

/-- The shortcut of `reconcileIfChanged`. -/
def unchanged (manager : GraphManager) (topics : TopicNamesAndTypes) : Bool :=
  manager.lastReconciledTopics = some topics

def record (manager : GraphManager) (topics : TopicNamesAndTypes) : GraphManager :=
  { manager with lastReconciledTopics := some topics }

end GraphManager

end RosPortal.Portal
