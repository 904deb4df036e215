import RosPortal.Portal.Node

/-! The RPC handlers of a room session. Here the start of the room components, which
holds `room_components_mutex_` throughout, goes through its initialisers one at a time
and through the registrations of the handlers one at a time, with the other entry points
of the node between them. -/

set_option autoImplicit false

namespace RosPortal.Portal.Rpc

open Interleaving Connection

def kTopicListRpcMethod : String := "ros2_topic_list"

def kTopicPubRpcMethod : String := "ros2_topic_pub"

def kServiceListRpcMethod : String := "ros2_service_list"

def kServiceCallRpcMethod : String := "ros2_service_call"

def kInterfaceShowRpcMethod : String := "ros2_interface_show"

def kLatchedStateRpcMethod : String := "ros2_latched_state"

/-- The methods that the constructor of `cli::Manager` registers, in its order. -/
def cliRpcMethods : List String :=
  [kTopicListRpcMethod, kTopicPubRpcMethod, kServiceListRpcMethod, kServiceCallRpcMethod,
    kInterfaceShowRpcMethod]

def configuredMethods (options : Options) : List String :=
  if options.inboundTopics.isEmpty then cliRpcMethods else cliRpcMethods ++ [kLatchedStateRpcMethod]

/-- `cliRegistered` is `registered_rpc_methods_` of the CLI manager, `latchedRegistered` is
`rpc_registered_` of the latched topic forwarder, and `participant` lists the methods that
have a handler with the local participant. `locked` is `room_components_mutex_`. -/
structure Session where
  node : Node
  locked : Bool := false
  cliRegistered : List String := []
  latchedRegistered : Bool := false
  participant : List String := []
deriving DecidableEq

namespace Session

/-- `rpcRegisterMethod`, with its result. -/
def rpcRegisterMethod (session : Session) (method : String) : Session × Bool :=
  if session.node.roomOperationsEnabled then
    ({ session with participant := session.participant.insert method }, true)
  else (session, false)

theorem rpcRegisterMethod_node (session : Session) (method : String) :
    (session.rpcRegisterMethod method).1.node = session.node := by
  unfold rpcRegisterMethod
  split <;> rfl

/-- `rpcUnregisterMethod` for each of the methods. -/
def rpcUnregisterMethods (session : Session) (methods : List String) : Session :=
  { session with participant := session.participant.filter fun method => method ∉ methods }

/-- The destructor of `cli::Manager`. -/
def releaseCliManager (session : Session) : Session :=
  { session.rpcUnregisterMethods session.cliRegistered with cliRegistered := [] }

/-- The destructor of `LatchedTopicForwarder`. -/
def releaseLatchedTopicForwarder (session : Session) : Session :=
  if session.latchedRegistered then
    { session.rpcUnregisterMethods [kLatchedStateRpcMethod] with latchedRegistered := false }
  else session

def stopRoomComponents (session : Session) : Session :=
  { session.releaseCliManager.releaseLatchedTopicForwarder with node := session.node.stopRoomComponents }

@[simp] theorem stopRoomComponents_node (session : Session) :
    session.stopRoomComponents.node = session.node.stopRoomComponents := rfl

def abandon (session : Session) : Session := { session.stopRoomComponents with locked := false }

/-- A new CLI manager takes the place of the one there was, if any. -/
def adoptCliManager (session : Session) (registered : List String) : Session :=
  { session.releaseCliManager with
    node := { session.node with cliManager := true }
    cliRegistered := registered }

def adoptLatchedTopicForwarder (session : Session) (registered : Bool) : Session :=
  { session.releaseLatchedTopicForwarder with
    node := { session.node with latchedTopicForwarder := some {} }
    latchedRegistered := registered }

def connects (session : Session) (now : Int) (connected : Bool) : Bool :=
  (session.node.connection.poll now connected).isConnected && !session.node.connection.isConnected

/-- `poll`; the local participant of a new session has no handlers yet. -/
def pollManager (session : Session) (now : Int) (connected : Bool) : Session :=
  { session with
    node := session.node.pollManager now connected
    participant := if session.connects now connected then [] else session.participant }

/-- The end of `startRoomComponents`. -/
def finish (session : Session) (videoSources : Bool) : Session :=
  { session with
    node := { session.node with videoSourceManager := videoSources, roomComponentsStarted := true }
    locked := false }

end Session

/-- The entry points of the node that matter to the handlers; `onReconnecting`,
`onReconnected` and `onDisconnected` make the transitions of `onConnectionStateChanged`.
Of `reconcileGraphTopics` it is `processEndedRoomSession`. -/
inductive Call where
  | pollConnection
  | reconcileGraphTopics
  | onRoomEos
  | onConnectionStateChanged (state : SdkConnectionState)
deriving DecidableEq, Repr

inductive Control where
  | idle
  | tickEnded
  | tickStop
  | tickConnected
  | tickEnsure
  | tickPoll
  | tickJoined
  | tickStart
  | graphStop
  | eosManager
  | prepare
  | forwarder
  | cliManager
  | registering (registered remaining : List String)
  | latched
  | registeringLatched
  | videoSources
deriving DecidableEq, Repr

/-- What the environment decides in a step: the call a thread makes, the outcome of the
manager's `poll`, and whether an initialiser succeeds. -/
inductive Choice where
  | call (call : Call)
  | proceed
  | polled (now : Int) (connected : Bool)
  | outcome (success : Bool)
deriving DecidableEq, Repr

def begin (session : Session) : Call → Session × Control
  | .pollConnection => (session, .tickEnded)
  | .reconcileGraphTopics =>
      if session.node.roomSessionEnded then
        ({ session with node := { session.node with roomSessionEnded := false } }, .graphStop)
      else (session, .idle)
  | .onRoomEos => ({ session with node := session.node.endSession }, .eosManager)
  | .onConnectionStateChanged state =>
      ({ session with node := { session.node with
          connection := session.node.connection.handle (.onConnectionStateChanged state) } }, .idle)

def advance (options : Options) (session : Session) : Control → Choice → Option (Session × Control)
  | .idle, .call call => some (begin session call)
  -- pollConnection
  | .tickEnded, .proceed =>
      if session.node.roomSessionEnded then
        some ({ session with node := { session.node with roomSessionEnded := false } }, .tickStop)
      else some (session, .tickConnected)
  | .tickStop, .proceed =>
      if session.locked then none else some (session.stopRoomComponents, .tickConnected)
  | .tickConnected, .proceed =>
      some (session, if session.node.connection.isConnected then .tickPoll else .tickEnsure)
  | .tickEnsure, .outcome success =>
      if session.locked then none
      else
        match session.node.ensureTopicForwarder success with
        | some node => some ({ session with node }, .tickPoll)
        | none => some (session, .idle)
  | .tickPoll, .polled now connected => some (session.pollManager now connected, .tickJoined)
  | .tickJoined, .proceed =>
      some (session, if session.node.connection.isConnected then .tickStart else .idle)
  -- processEndedRoomSession on the discovery worker
  | .graphStop, .proceed => if session.locked then none else some (session.stopRoomComponents, .idle)
  -- onRoomEos
  | .eosManager, .proceed =>
      some ({ session with node := { session.node with
        connection := session.node.connection.onRoomEos } }, .idle)
  -- startRoomComponents
  | .tickStart, .proceed =>
      if session.locked then none
      else if session.node.roomComponentsStarted then some (session, .idle)
      else some ({ session with locked := true }, .prepare)
  | .prepare, .outcome success =>
      match session.node.prepareRoomSession success with
      | some node => some ({ session with node }, .forwarder)
      | none => some (session.abandon, .idle)
  | .forwarder, .outcome success =>
      match session.node.ensureTopicForwarder success with
      | some node => some ({ session with node }, .cliManager)
      | none => some (session.abandon, .idle)
  | .cliManager, .outcome success =>
      if success then some (session, .registering [] cliRpcMethods) else some (session.abandon, .idle)
  -- the registrations of the constructor; one that fails is only logged
  | .registering registered (method :: remaining), .proceed =>
      some ((session.rpcRegisterMethod method).1,
        .registering
          (if (session.rpcRegisterMethod method).2 then registered ++ [method] else registered) remaining)
  | .registering registered [], .proceed => some (session.adoptCliManager registered, .latched)
  | .latched, .outcome success =>
      if options.outboundTopics.isEmpty && options.inboundTopics.isEmpty then
        some (session, .videoSources)
      else if success then
        if options.inboundTopics.isEmpty then
          some (session.adoptLatchedTopicForwarder false, .videoSources)
        else some (session, .registeringLatched)
      else some (session.abandon, .idle)
  | .registeringLatched, .proceed =>
      some ((session.rpcRegisterMethod kLatchedStateRpcMethod).1.adoptLatchedTopicForwarder
        (session.rpcRegisterMethod kLatchedStateRpcMethod).2, .videoSources)
  | .videoSources, .outcome success => some (session.finish success, .idle)
  | _, _ => none

def program (options : Options) : Program Session Control Choice := ⟨advance options⟩

abbrev Config : Type := Pool Session Control

def initial (graph : TopicNamesAndTypes) (threads : Nat) : Config where
  shared := { node := { graph, topicForwarder := some {} } }
  threads := List.replicate threads .idle

def NoCall (config : Config) : Prop := ∀ control ∈ config.threads, control = .idle

instance (config : Config) : Decidable (NoCall config) :=
  inferInstanceAs (Decidable (∀ control ∈ config.threads, _))

def AllRegistered (options : Options) (session : Session) : Prop :=
  ∀ method ∈ configuredMethods options, method ∈ session.participant

instance (options : Options) (session : Session) : Decidable (AllRegistered options session) :=
  inferInstanceAs (Decidable (∀ method ∈ configuredMethods options, _))

/-- The room is connected with operations enabled and its components started. -/
structure Ready (node : Node) : Prop where
  connected : node.connection.isConnected = true
  enabled : node.roomOperationsEnabled = true
  started : node.roomComponentsStarted = true

instance (node : Node) : Decidable (Ready node) :=
  decidable_of_iff (node.connection.isConnected = true ∧ node.roomOperationsEnabled = true ∧
    node.roomComponentsStarted = true)
    ⟨fun ⟨connected, enabled, started⟩ => ⟨connected, enabled, started⟩,
      fun ready => ⟨ready.connected, ready.enabled, ready.started⟩⟩

/-- A handler is registered while operations are enabled, and a new session begins while
the components of the one before are neither started nor being started. -/
def Control.guarded (session : Session) (choice : Choice) : Control → Bool
  | .registering _ (_ :: _) | .registeringLatched => session.node.roomOperationsEnabled
  | .tickPoll =>
      match choice with
      | .polled now connected =>
          !session.connects now connected || (!session.node.roomComponentsStarted && !session.locked)
      | _ => true
  | _ => true

def Guarded (config : Config) (label : Nat × Choice) : Prop :=
  ∀ control ∈ config.threads[label.1]?, control.guarded config.shared label.2 = true

instance (config : Config) (label : Nat × Choice) : Decidable (Guarded config label) :=
  inferInstanceAs (Decidable (∀ control ∈ config.threads[label.1]?, _))

end RosPortal.Portal.Rpc
