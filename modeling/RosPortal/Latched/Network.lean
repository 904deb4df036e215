import RosPortal.Latched.Outbound
import RosPortal.Portal.Forwarders

/-! Portals that push latched state to one another. Inside a portal the inbound and the
outbound side meet through ROS: the portal's own subscriptions receive what its own
publishers publish. -/

set_option autoImplicit false

namespace RosPortal.Latched

open Interleaving

inductive Direction where
  | incoming
  | outgoing
  | bidirectional
deriving DecidableEq, Repr

structure TopicConfig where
  topic : String
  direction : Direction
  latched : Bool
deriving DecidableEq, Repr

/-- A track name without its leading slash gets one; the empty name is no topic. -/
def normalizeTrackTopicName (trackName : String) : Option String :=
  match trackName.toList with
  | [] => none
  | '/' :: _ => some trackName
  | _ => some ("/" ++ trackName)

def latchedOutboundTopics (topics : List TopicConfig) : List String :=
  (topics.filter fun config => config.direction ≠ .incoming && config.latched).map TopicConfig.topic

def latchedInboundTopics (topics : List TopicConfig) : List String :=
  (topics.filter fun config => config.direction ≠ .outgoing && config.latched).filterMap fun config =>
    normalizeTrackTopicName config.topic

def latchedTopicForwarderOptions (topics : List TopicConfig) : Options :=
  { outboundTopics := latchedOutboundTopics topics, inboundTopics := latchedInboundTopics topics }

/-- A sample on its way through ROS. -/
structure Publication where
  publisher : Publisher
  topic : String
  type : String
  data : List UInt8
deriving DecidableEq, Repr

structure Response where
  success : Bool
  errMsg : String
  output : String
deriving DecidableEq, Repr

/-- What ROS makes of creating a publisher and of publishing: the texts of the exceptions. -/
structure RosOutcome where
  createFailure : Option String := none
  invalidHandle : Bool := false
  publishFailure : Option String := none
deriving DecidableEq, Repr

/-- The publishers by topic, each with the type it was created for. -/
abbrev InboundPublishers := List (String × String)

/-- The publisher of the topic, created on first use. -/
def openPublisher (publishers : InboundPublishers) (request : Request) (outcome : RosOutcome) :
    Except String (InboundPublishers × String) :=
  match publishers.lookup request.topic with
  | some type => .ok (publishers, type)
  | none =>
      match outcome.createFailure with
      | some what =>
          .error ("failed to create publisher for '" ++ request.topic ++ "' [" ++ request.msgType ++
            "]: " ++ what)
      | none =>
          if outcome.invalidHandle then .error ("publisher handle invalid for '" ++ request.topic ++ "'")
          else .ok ((request.topic, request.msgType) :: publishers, request.msgType)

structure Handled where
  response : Response
  publishers : InboundPublishers
  publication : Option Publication := none
deriving DecidableEq, Repr

def reject (publishers : InboundPublishers) (reason : String) : Handled :=
  { response := ⟨false, reason, ""⟩, publishers }

/-- The payload is what parsing it gives: the request, or the text of the exception. -/
def handleLatchedStateRpc (options : Options) (publishers : InboundPublishers)
    (payload : Except String Request) (outcome : RosOutcome) : Handled :=
  match payload with
  | .error what => reject publishers ("malformed latched-state request: " ++ what)
  | .ok request =>
      if request.topic ∉ options.inboundTopics then
        reject publishers ("topic '" ++ request.topic ++ "' is not a configured inbound latched topic")
      else
        match base64Decode request.data with
        | none => reject publishers ("invalid base64 payload for '" ++ request.topic ++ "'")
        | some decoded =>
            match openPublisher publishers request outcome with
            | .error reason => reject publishers reason
            | .ok (publishers, type) =>
                match outcome.publishFailure with
                | some what => reject publishers ("failed to publish '" ++ request.topic ++ "': " ++ what)
                | none =>
                    { response := ⟨true, "", ""⟩, publishers
                      publication := some ⟨.inbound, request.topic, type, decoded⟩ }

/-- `publications` are the samples that the portal's own subscriptions have still to receive. -/
structure Portal where
  outbound : State := {}
  discovery : RosPortal.Portal.LatchedTopicForwarder := {}
  publishers : InboundPublishers := []
  publications : List Publication := []

/-- A step of one portal. A sample reaches the outbound side through a subscription only. -/
inductive Action where
  | publish (topic type : String) (data : List UInt8)
  | reconcileTopics (topics : RosPortal.Portal.TopicNamesAndTypes)
  | deliver (index : Nat) (available : Bool)
  | outbound (label : Label)

def Label.receives : Label → Bool
  | .receive _ _ _ => true
  | _ => false

namespace Portal

def deliver? (portal : Portal) (index : Nat) (available : Bool) : Option Portal :=
  match portal.publications[index]? with
  | none => none
  | some ⟨publisher, topic, type, data⟩ =>
      if (topic, type) ∈ portal.discovery.subscriptions then
        some { portal with
          outbound := portal.outbound.receive publisher ⟨topic, type, data⟩ available
          publications := portal.publications.eraseIdx index }
      else none

def act? (options : Options) (library : Library) (portal : Portal) : Action → Option Portal
  | .publish topic type data =>
      some { portal with
        publications := portal.publications ++ [⟨.ordinary, topic, type, data⟩] }
  | .reconcileTopics topics =>
      some { portal with
        discovery :=
          portal.discovery.reconcileTopics { outboundTopics := options.outboundTopics } topics }
  | .deliver index available => portal.deliver? index available
  | .outbound label =>
      if label.receives then none
      else (step? options library portal.outbound label).map fun outbound => { portal with outbound }

/-- The RPC that a step performs: its target and its request. -/
def performs (portal : Portal) : Action → Option (String × Request)
  | .outbound .perform =>
      match portal.outbound.worker with
      | .sending _ id (message :: _) => some (id, message.request)
      | _ => none
  | _ => none

def serve (options : Options) (portal : Portal) (request : Request) (outcome : RosOutcome) : Portal :=
  let handled := handleLatchedStateRpc options portal.publishers (.ok request) outcome
  { portal with
    publishers := handled.publishers
    publications := portal.publications ++ handled.publication.toList }

end Portal

/-- The portals by identity, and the RPCs performed and not yet served. The answer that a
caller sees is its own choice: it may also be lost. -/
structure Network where
  portals : String → Portal := fun _ => {}
  calls : List (String × Request) := []

inductive NetworkLabel where
  | act (id : String) (action : Action)
  | serve (index : Nat) (outcome : RosOutcome)

namespace Network

def act? (options : String → Options) (library : Library) (network : Network) (id : String)
    (action : Action) : Option Network :=
  ((network.portals id).act? (options id) library action).map fun portal =>
    { portals := Function.update network.portals id portal
      calls := network.calls ++ ((network.portals id).performs action).toList }

def serve? (options : String → Options) (network : Network) (index : Nat) (outcome : RosOutcome) :
    Option Network :=
  network.calls[index]?.map fun call =>
    { portals := Function.update network.portals call.1
        ((network.portals call.1).serve (options call.1) call.2 outcome)
      calls := network.calls.eraseIdx index }

def step? (options : String → Options) (library : Library) (network : Network) :
    NetworkLabel → Option Network
  | .act id action => network.act? options library id action
  | .serve index outcome => network.serve? options index outcome

def machine (options : String → Options) (library : Library) : Machine Network NetworkLabel where
  step? := step? options library

end Network

end RosPortal.Latched
