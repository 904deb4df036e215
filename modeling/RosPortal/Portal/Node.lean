import RosPortal.Connection.Calls
import RosPortal.Portal.Forwarders

/-! The portal node between start and shutdown: ticks of the connection timer, the
graph discovery worker and the room callbacks over the shared room components. The
connection manager's calls and each section under `room_components_mutex_` are
single steps. -/

set_option autoImplicit false

namespace RosPortal.Portal

open Interleaving Connection

/-- The room session in progress, counted by successful connects and by room ends, and
the data tracks that were announced and accepted in it and not unpublished since. -/
structure History where
  session : Nat := 0
  live : List String := []
deriving DecidableEq, Repr

/-- Whether a snapshot was applied since the room components were last stopped, and the topics
whose subscriptions were reaped since the last one was applied. -/
structure Forwarding where
  applied : Bool := false
  reaped : List String := []
deriving DecidableEq, Repr

structure Node where
  graph : TopicNamesAndTypes
  graphManager : GraphManager := {}
  connection : Manager := {}
  roomSessionEnded : Bool := false
  roomSessionPrepared : Bool := false
  roomComponentsStarted : Bool := false
  cliManager : Bool := false
  videoSourceManager : Bool := false
  topicForwarder : Option TopicForwarder := none
  latchedTopicForwarder : Option LatchedTopicForwarder := none
  history : History := {}
  forwarding : Forwarding := {}
deriving DecidableEq

/-- How each part of a component start ends, if it is tried. -/
structure StartOutcome where
  prepared : Bool := true
  topicForwarder : Bool := true
  cliManager : Bool := true
  latchedTopicForwarder : Bool := true
  videoSources : Bool := true
deriving DecidableEq, Repr

namespace Node

def roomOperationsEnabled (node : Node) : Bool := node.connection.operationsEnabled

def stopRoomComponents (node : Node) : Node :=
  { node with
    videoSourceManager := false
    cliManager := false
    latchedTopicForwarder := none
    topicForwarder := none
    roomComponentsStarted := false
    roomSessionPrepared := false }

/-- `prepareRoomSession`; the local participant and its attributes decide the outcome. -/
def prepareRoomSession (node : Node) (outcome : Bool) : Option Node :=
  if node.roomSessionPrepared then some node
  else if node.roomOperationsEnabled && outcome then some { node with roomSessionPrepared := true }
  else none

/-- `topic_forwarder_ || initializeTopicForwarder(topics_)`. -/
def ensureTopicForwarder (node : Node) (outcome : Bool) : Option Node :=
  if node.topicForwarder.isSome then some node
  else if outcome then some { node with topicForwarder := some {} }
  else none

def initializeCliManager (node : Node) (outcome : Bool) : Option Node :=
  if outcome then some { node with cliManager := true } else none

def initializeLatchedTopicForwarder (options : Options) (node : Node) (outcome : Bool) : Option Node :=
  if options.outboundTopics.isEmpty && options.inboundTopics.isEmpty then some node
  else if outcome then some { node with latchedTopicForwarder := some {} }
  else none

/-- The initialisers of `startRoomComponents` in their order; a failure of the video
sources is only logged. -/
def initializeRoomComponents (options : Options) (node : Node) (outcome : StartOutcome) : Option Node := do
  let node ← node.prepareRoomSession outcome.prepared
  let node ← node.ensureTopicForwarder outcome.topicForwarder
  let node ← node.initializeCliManager outcome.cliManager
  let node ← node.initializeLatchedTopicForwarder options outcome.latchedTopicForwarder
  return { node with videoSourceManager := outcome.videoSources, roomComponentsStarted := true }

/-- A start that fails stops what it has initialised with everything else. -/
def startRoomComponents (options : Options) (node : Node) (outcome : StartOutcome) : Node :=
  if node.roomComponentsStarted then node
  else (node.initializeRoomComponents options outcome).getD node.stopRoomComponents

theorem prepareRoomSession_eq {node prepared : Node} {outcome : Bool}
    (succeeded : node.prepareRoomSession outcome = some prepared) :
    prepared = { node with roomSessionPrepared := true } := by
  unfold prepareRoomSession at succeeded
  split at succeeded
  · rename_i already
    cases succeeded
    obtain ⟨_, _, _, _, preparedBefore⟩ := node
    cases already
    rfl
  · split at succeeded <;> cases succeeded
    rfl

theorem ensureTopicForwarder_eq {node ensured : Node} {outcome : Bool}
    (succeeded : node.ensureTopicForwarder outcome = some ensured) :
    ensured = { node with topicForwarder := some (node.topicForwarder.getD {}) } := by
  unfold ensureTopicForwarder at succeeded
  obtain ⟨_, _, _, _, _, _, _, _, held⟩ := node
  cases held with
  | some forwarder =>
      cases succeeded
      rfl
  | none =>
      cases outcome <;> cases succeeded
      rfl

theorem initializeLatchedTopicForwarder_eq {options : Options} {node initialized : Node} {outcome : Bool}
    (succeeded : node.initializeLatchedTopicForwarder options outcome = some initialized) :
    ∃ latched, ((latched = node.latchedTopicForwarder ∧ options.outboundTopics = []) ∨ latched = some {}) ∧
      initialized = { node with latchedTopicForwarder := latched } := by
  unfold initializeLatchedTopicForwarder at succeeded
  split at succeeded
  next unconfigured =>
    cases succeeded
    exact ⟨_, .inl ⟨rfl, List.isEmpty_iff.mp (Bool.and_eq_true_iff.mp unconfigured).1⟩, rfl⟩
  · split at succeeded <;> cases succeeded
    exact ⟨_, .inr rfl, rfl⟩

/-- What `startRoomComponents` leaves: the node as it was, everything stopped, or the
room started with the topic forwarder it had, if any. -/
theorem startRoomComponents_cases (options : Options) (node : Node) (outcome : StartOutcome) :
    node.startRoomComponents options outcome = node ∨
    (node.roomComponentsStarted = false ∧ node.initializeRoomComponents options outcome = none ∧
      node.startRoomComponents options outcome = node.stopRoomComponents) ∨
    ∃ latched, ((latched = node.latchedTopicForwarder ∧ options.outboundTopics = []) ∨ latched = some {}) ∧
      node.startRoomComponents options outcome = { node with
        roomSessionPrepared := true
        topicForwarder := some (node.topicForwarder.getD {})
        cliManager := true
        latchedTopicForwarder := latched
        videoSourceManager := outcome.videoSources
        roomComponentsStarted := true } := by
  unfold startRoomComponents
  split
  · exact .inl rfl
  · cases initialized : node.initializeRoomComponents options outcome with
    | none => exact .inr (.inl ⟨Bool.not_eq_true _ ▸ ‹_›, rfl, rfl⟩)
    | some started =>
        simp only [initializeRoomComponents, Option.bind_eq_bind, Option.bind_eq_some_iff] at initialized
        obtain ⟨prepared, prepares, ensured, ensures, managed, manages, latching, latches, finishes⟩ :=
          initialized
        obtain rfl := prepareRoomSession_eq prepares
        obtain rfl := ensureTopicForwarder_eq ensures
        obtain ⟨latched, origin, rfl⟩ := initializeLatchedTopicForwarder_eq latches
        unfold initializeCliManager at manages
        split at manages <;> cases manages
        cases finishes
        exact .inr (.inr ⟨latched, origin, rfl⟩)

@[simp] theorem startRoomComponents_history (options : Options) (node : Node) (outcome : StartOutcome) :
    (node.startRoomComponents options outcome).history = node.history := by
  rcases node.startRoomComponents_cases options outcome with same | ⟨_, _, same⟩ | ⟨_, _, same⟩
  all_goals rw [same]
  rfl

/-- The section of `reconcileGraphTopics` under the lock, with its result. -/
def reconcileComponents (options : Options) (node : Node) (now : Int) (publisherCount : String → Nat)
    (topics : TopicNamesAndTypes) : Node × Bool :=
  if node.roomComponentsStarted then
    ({ node with
      topicForwarder :=
        if TopicForwarder.needsGraphDiscovery options then
          node.topicForwarder.map fun forwarder =>
            (forwarder.markAbsent now publisherCount).reconcileTopics options topics
        else node.topicForwarder
      latchedTopicForwarder :=
        if LatchedTopicForwarder.needsGraphDiscovery options then
          node.latchedTopicForwarder.map (·.reconcileTopics options topics)
        else node.latchedTopicForwarder }, true)
  else (node, false)

def reapInactiveSubscriptions (options : Options) (node : Node) (now : Int) (publisherCount : String → Nat) : Node :=
  if node.roomComponentsStarted then
    { node with topicForwarder := node.topicForwarder.map (·.reapExpiredSubscriptions options now publisherCount) }
  else node

def subscribedTopics (node : Node) : List String :=
  node.topicForwarder.elim [] fun forwarder => forwarder.subscriptions.map Prod.fst

/-- The record of a snapshot that was applied, of a stop, and of what was reaped. -/
def noteApplied (node : Node) : Node := { node with forwarding := { applied := true } }

def noteStopped (node : Node) : Node := { node with forwarding := { node.forwarding with applied := false } }

def noteReaped (node : Node) (before : List String) : Node :=
  { node with
    forwarding := { node.forwarding with
      reaped := (before.filter fun topicName => topicName ∉ node.subscribedTopics) ++ node.forwarding.reaped } }

/-- `poll`; a connect begins a new session. -/
def pollManager (node : Node) (now : Int) (connected : Bool) : Node :=
  let connection := node.connection.poll now connected
  { node with
    connection
    history :=
      if connection.isConnected && !node.connection.isConnected then
        { session := node.history.session + 1 }
      else node.history }

/-- The flag store of `onRoomEos`, by which the session is over. -/
def endSession (node : Node) : Node :=
  { node with
    roomSessionEnded := true
    history := { session := node.history.session + 1 } }

/-- The locked section of `onDataTrackPublished` for a track announced in a session. -/
def acceptDataTrack (node : Node) (session : Nat) (sid : String) (rejection : Option Rejection) : Node :=
  { node with
    topicForwarder := node.topicForwarder.map (·.onDataTrackPublished sid rejection)
    history :=
      if node.topicForwarder.isSome && rejection.isNone && session = node.history.session then
        { node.history with live := sid :: node.history.live }
      else node.history }

def onDataTrackUnpublished (node : Node) (sid : String) : Node :=
  { node with
    topicForwarder := node.topicForwarder.map (·.onDataTrackUnpublished sid)
    history := { node.history with live := node.history.live.filter fun live => live ≠ sid } }

end Node

/-- The entry points of the node. `readSnapshot` stands for any caller of
`GraphManager::topics` besides the worker; `onReconnecting`, `onReconnected` and
`onDisconnected` make the transitions of `onConnectionStateChanged`. -/
inductive Call where
  | pollConnection
  | onRoomEos
  | onConnectionStateChanged (state : SdkConnectionState)
  | onDataTrackPublished (sid : String)
  | onDataTrackUnpublished (sid : String)
  | readSnapshot
deriving DecidableEq, Repr

/-- Where a thread is. The first pass of the worker is before its loop and is not followed by reaping. -/
inductive Control where
  | idle
  | tickEnded
  | tickStop
  | tickConnected
  | tickEnsure
  | tickPoll
  | tickJoined
  | tickStart
  | eosManager
  | publishedWait (session : Nat) (sid : String)
  | publishedAccept (session : Nat) (sid : String)
  | workerWait
  | workerSettle
  | workerInvalidate
  | workerTopics (looping : Bool)
  | workerCompare (looping : Bool) (topics : TopicNamesAndTypes)
  | workerEnded (looping : Bool) (topics : TopicNamesAndTypes)
  | workerStop (looping : Bool) (topics : TopicNamesAndTypes)
  | workerOperations (looping : Bool) (topics : TopicNamesAndTypes)
  | workerReconcile (looping : Bool) (topics : TopicNamesAndTypes)
  | workerRecord (looping : Bool) (topics : TopicNamesAndTypes)
  | workerReap
deriving DecidableEq

/-- What the environment decides in a step: the call a thread makes, a change of the
ROS graph or a graph event, the steady clock and the publishers that match a subscription,
and the outcome of what is tried. -/
inductive Choice where
  | call (call : Call)
  | graphChanged (graph : TopicNamesAndTypes)
  | graphEvent
  | proceed
  | observed (now : Int) (publisherCount : String → Nat)
  | ensured (outcome : Bool)
  | polled (now : Int) (connected : Bool)
  | started (outcome : StartOutcome)
  | published (rejection : Option Rejection)

/-- A call's first step, which for the shortest calls is all of it. -/
def begin (node : Node) : Call → Node × Control
  | .pollConnection => (node, .tickEnded)
  | .onRoomEos => (node.endSession, .eosManager)
  | .onConnectionStateChanged state =>
      ({ node with connection := node.connection.handle (.onConnectionStateChanged state) }, .idle)
  | .onDataTrackPublished sid => (node, .publishedWait node.history.session sid)
  | .onDataTrackUnpublished sid => (node.onDataTrackUnpublished sid, .idle)
  | .readSnapshot => ({ node with graphManager := node.graphManager.cacheSnapshot node.graph }, .idle)

/-- After a pass the loop goes on to reap; the first pass is before the loop. -/
def afterPass (looping : Bool) : Control := if looping then .workerReap else .workerWait

def advance (options : Options) (node : Node) : Control → Choice → Option (Node × Control)
  | .idle, .call call => some (begin node call)
  | .idle, .graphChanged graph => some ({ node with graph }, .idle)
  | .idle, .graphEvent =>
      some ({ node with graphManager := { node.graphManager with event := true } }, .idle)
  -- pollConnection; `room_session_ended_.exchange(false)` first
  | .tickEnded, .proceed =>
      if node.roomSessionEnded then some ({ node with roomSessionEnded := false }, .tickStop)
      else some (node, .tickConnected)
  | .tickStop, .proceed => some (node.stopRoomComponents.noteStopped, .tickConnected)
  | .tickConnected, .proceed =>
      some (node, if node.connection.isConnected then .tickPoll else .tickEnsure)
  | .tickEnsure, .ensured outcome =>
      match node.ensureTopicForwarder outcome with
      | some ensured => some (ensured, .tickPoll)
      | none => some (node, .idle)
  | .tickPoll, .polled now connected => some (node.pollManager now connected, .tickJoined)
  | .tickJoined, .proceed => some (node, if node.connection.isConnected then .tickStart else .idle)
  | .tickStart, .started outcome => some (node.startRoomComponents options outcome, .idle)
  -- onRoomEos
  | .eosManager, .proceed => some ({ node with connection := node.connection.onRoomEos }, .idle)
  -- onDataTrackPublished
  | .publishedWait session sid, .proceed =>
      if node.connection.released then
        some (node, if node.roomOperationsEnabled then .publishedAccept session sid else .idle)
      else none
  | .publishedAccept session sid, .published rejection =>
      some (node.acceptDataTrack session sid rejection, .idle)
  -- discoveryLoop; the second `check_and_clear` follows the debounce
  | .workerWait, .proceed =>
      if node.graphManager.event then
        some ({ node with graphManager := node.graphManager.clearEvent }, .workerSettle)
      else some (node, .workerReap)
  | .workerSettle, .proceed =>
      some ({ node with graphManager := node.graphManager.clearEvent }, .workerInvalidate)
  | .workerInvalidate, .proceed =>
      some ({ node with graphManager := node.graphManager.invalidate }, .workerTopics true)
  | .workerTopics looping, .proceed =>
      some ({ node with graphManager := node.graphManager.cacheSnapshot node.graph },
        .workerCompare looping (node.graphManager.snapshot node.graph))
  | .workerCompare looping topics, .proceed =>
      some (node, if node.graphManager.unchanged topics then afterPass looping else .workerEnded looping topics)
  -- reconcileGraphTopics
  | .workerEnded looping topics, .proceed =>
      if node.roomSessionEnded then some ({ node with roomSessionEnded := false }, .workerStop looping topics)
      else some (node, .workerOperations looping topics)
  | .workerStop looping topics, .proceed =>
      some (node.stopRoomComponents.noteStopped, .workerOperations looping topics)
  | .workerOperations looping topics, .proceed =>
      some (node, if node.roomOperationsEnabled then .workerReconcile looping topics else afterPass looping)
  | .workerReconcile looping topics, .observed now publisherCount =>
      match node.reconcileComponents options now publisherCount topics with
      | (reconciled, true) => some (reconciled.noteApplied, .workerRecord looping topics)
      | (skipped, false) => some (skipped, afterPass looping)
  | .workerRecord looping topics, .proceed =>
      some ({ node with graphManager := node.graphManager.record topics }, afterPass looping)
  | .workerReap, .observed now publisherCount =>
      some ((node.reapInactiveSubscriptions options now publisherCount).noteReaped node.subscribedTopics, .workerWait)
  | _, _ => none

def program (options : Options) : Program Node Control Choice where
  advance := advance options

abbrev Config : Type := Pool Node Control

/-- The node after `initialize`: the forwarder that receives early announcements
exists, and thread 0 is the discovery worker on its first snapshot. -/
def initial (graph : TopicNamesAndTypes) (threads : Nat) : Config where
  shared := { graph, topicForwarder := some {} }
  threads := .workerTopics false :: List.replicate threads .idle

end RosPortal.Portal
