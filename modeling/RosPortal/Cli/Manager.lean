import RosPortal.Cli.Converters
import RosPortal.Cli.Responses

/-! The manager's calls that ask a remote participant, with what each adds to `rpc_failures`. -/

set_option autoImplicit false

namespace RosPortal.Cli

open JsonText

/-- A request of a caller in the local graph. -/
inductive Command where
  | topicList (request : TopicListRequest)
  | topicPub (request : TopicPubRequest)
  | serviceList (request : ServiceListRequest)
  | serviceCall (request : ServiceCallRequest)
  | interfaceShow (request : InterfaceShowRequest)
deriving DecidableEq, Repr

namespace Manager

section Outbound

variable (codec : Codec) (conversions : Conversions) (livekit : LiveKitMethods)

def recordRemoteResult (response : CliResponse) : Outcome CliResponse :=
  ⟨if response.success then 0 else 1, .ok response⟩

def unrecorded (response : CliResponse) : Outcome CliResponse := ⟨0, .ok response⟩

def performRemoteRpc (participantId rpcMethod requestPayload : Bytes) (timeoutSec : UInt8) :
    Except Bytes CliResponse := do
  let rpcResponse ← livekit.performRpc participantId rpcMethod requestPayload timeoutSec
  match rpcResponse with
  | none => return failure (ascii "remote " ++ rpcMethod ++ ascii " RPC failed")
  | some text =>
      match cliResponseFromJson codec conversions text with
      | .error _ => return failure (ascii "remote " ++ rpcMethod ++ ascii " returned malformed JSON")
      | .ok response => return response

/-- The checks of the room and of the participant, which the requests have in common. -/
def whenReachable (participantId : Bytes) (send : Outcome CliResponse) : Outcome CliResponse :=
  match livekit.isRoomAvailable with
  | .error what => .thrown what
  -- the one failure that is returned without being recorded
  | .ok false => unrecorded (failure roomNotConnectedError)
  | .ok true =>
      match livekit.hasParticipant participantId with
      | .error what => .thrown what
      | .ok false => recordRemoteResult
          (failure (ascii "LiveKit participant '" ++ participantId ++ ascii "' was not found"))
      | .ok true => send

def sendRequest (participantId : Bytes) (rpcMethod : String) (timeoutSec : UInt8) (payload : Bytes) :
    Outcome CliResponse :=
  match performRemoteRpc codec conversions livekit participantId (ascii rpcMethod) payload timeoutSec with
  | .error what => .thrown what
  | .ok response => recordRemoteResult response

/-- The request is dumped, which throws for text that is not UTF-8, and goes on from there. -/
def withPayload (payload : Except Bytes Bytes) (next : Bytes → Outcome CliResponse) :
    Outcome CliResponse :=
  match payload with
  | .error what => .thrown what
  | .ok payload => next payload

def rejected (errMsg : String) : Outcome CliResponse := recordRemoteResult (failure (ascii errMsg))

def callRemoteTopicList (request : TopicListRequest) : Outcome CliResponse :=
  if request.participantId = [] then rejected "participant_id must be non-empty"
  else
    let timeoutSec := effectiveTimeout request.timeoutSec
    whenReachable livekit request.participantId
      (withPayload (topicListRequestToJson codec request timeoutSec)
        (sendRequest codec conversions livekit request.participantId "ros2_topic_list" timeoutSec))

/-- The sender reads its own request once, as the receiver will. -/
def callRemoteTopicPub (request : TopicPubRequest) : Outcome CliResponse :=
  if request.participantId = [] then rejected "participant_id must be non-empty"
  else
    let timeoutSec := effectiveTimeout request.timeoutSec
    whenReachable livekit request.participantId
      (withPayload (topicPubRequestToJson codec request timeoutSec) fun payload =>
        match topicPubOptionsFromJson codec payload with
        | .error what => recordRemoteResult (failure what)
        | .ok _ =>
            sendRequest codec conversions livekit request.participantId "ros2_topic_pub" timeoutSec payload)

def callRemoteServiceList (request : ServiceListRequest) : Outcome CliResponse :=
  if request.participantId = [] then rejected "participant_id must be non-empty"
  else
    let timeoutSec := effectiveTimeout request.timeoutSec
    whenReachable livekit request.participantId
      (withPayload (serviceListRequestToJson codec request timeoutSec)
        (sendRequest codec conversions livekit request.participantId "ros2_service_list" timeoutSec))

def callRemoteServiceCall (request : ServiceCallRequest) : Outcome CliResponse :=
  if request.participantId = [] then rejected "participant_id must be non-empty"
  else if request.service = [] then rejected "service must be non-empty"
  else if request.msgType = [] then rejected "msg_type must be non-empty"
  else if request.payload = [] then rejected "payload must be non-empty"
  else
    let serviceTimeoutSec := effectiveTimeout request.timeoutSec
    let rpcTimeoutSec := serviceCallRpcTimeout serviceTimeoutSec
    whenReachable livekit request.participantId
      (withPayload (serviceCallRequestToJson codec request serviceTimeoutSec)
        (sendRequest codec conversions livekit request.participantId "ros2_service_call" rpcTimeoutSec))

def callRemoteInterfaceShow (request : InterfaceShowRequest) : Outcome CliResponse :=
  if request.participantId = [] then rejected "participant_id must be non-empty"
  else if request.allComments && request.noComments then
    rejected "all_comments and no_comments are mutually exclusive"
  else
    let timeoutSec := effectiveTimeout request.timeoutSec
    whenReachable livekit request.participantId
      (withPayload (interfaceShowRequestToJson codec request timeoutSec)
        (sendRequest codec conversions livekit request.participantId "ros2_interface_show" timeoutSec))

def callRemote : Command → Outcome CliResponse
  | .topicList request => callRemoteTopicList codec conversions livekit request
  | .topicPub request => callRemoteTopicPub codec conversions livekit request
  | .serviceList request => callRemoteServiceList codec conversions livekit request
  | .serviceCall request => callRemoteServiceCall codec conversions livekit request
  | .interfaceShow request => callRemoteInterfaceShow codec conversions livekit request

end Outbound

end Manager

end RosPortal.Cli
