import Mathlib.Data.List.DropRight
import RosPortal.Json.Value

/-! The handlers of inbound RPCs, from the bytes of the request to the bytes of the
response, with what each adds to `rpc_failures`. An exception is its `what()` text; one
that a handler does not catch is the error of its result. -/

set_option autoImplicit false

namespace RosPortal.Cli

open JsonText

/-- How the JSON library converts values, with the texts of the exceptions it throws. -/
structure Conversions where
  typeError : Value → Bytes
  missingKey : Bytes → Bytes
  getInt : Value → Except Bytes Int

structure Conversions.Plain (conversions : Conversions) : Prop where
  typeError : ∀ value, IsAscii (conversions.typeError value)
  missingKey : ∀ key, IsAscii key → IsAscii (conversions.missingKey key)
  getInt : ∀ value what, conversions.getInt value = .error what → IsAscii what

structure TopicListOptions where
  showTypes : Bool := false
  countTopics : Bool := false
  includeHiddenTopics : Bool := false
  verbose : Bool := false
deriving DecidableEq, Repr

structure TopicPubOptions where
  topic : Bytes
  msgType : Bytes
  payload : Bytes
deriving DecidableEq, Repr

structure ServiceListOptions where
  showTypes : Bool := false
  countServices : Bool := false
  includeHiddenServices : Bool := false
deriving DecidableEq, Repr

structure ServiceCallOptions where
  service : Bytes
  msgType : Bytes
  payload : Bytes
  timeoutSec : UInt8 := 0
deriving DecidableEq, Repr

structure InterfaceShowOptions where
  type : Bytes := []
  allComments : Bool := false
  noComments : Bool := false
deriving DecidableEq, Repr

structure CliResponse where
  success : Bool
  errMsg : Bytes
  output : Bytes
deriving DecidableEq, Repr

/-- The object that `cliResponseToJson` dumps; its members are in key order. -/
def CliResponse.toJson (response : CliResponse) : Value :=
  .object [(ascii "err_msg", .string response.errMsg), (ascii "output", .string response.output),
    (ascii "success", .boolean response.success)]

/-- `std::isspace` in the C locale. -/
def isSpace (octet : UInt8) : Bool := octet == 32 || (9 ≤ octet && octet ≤ 13)

def leftTrim (value : Bytes) : Bytes := value.dropWhile isSpace

def rightTrim (value : Bytes) : Bytes := value.rdropWhile isSpace

def requiredStringField (body : Value) (fieldName missingMessage emptyMessage : String) :
    Except Bytes Bytes :=
  match body.find? (ascii fieldName) with
  | some (.string text) =>
      let value := rightTrim (leftTrim text)
      if value = [] then .error (ascii emptyMessage) else .ok value
  | _ => .error (ascii missingMessage)

section Requests

variable (codec : Codec) (conversions : Conversions)

def parse (payload : Bytes) : Except Bytes Value :=
  match codec.parse payload with
  | .error error => .error error.what
  | .ok request => .ok request

def getBool : Value → Except Bytes Bool
  | .boolean value => .ok value
  | other => .error (conversions.typeError other)

def getString : Value → Except Bytes Bytes
  | .string value => .ok value
  | other => .error (conversions.typeError other)

/-- `json::value`: the member converted, or the default where there is none. -/
def valueOr {α : Type} (request : Value) (key : String) (get : Value → Except Bytes α) (default : α) :
    Except Bytes α :=
  match request with
  | .object members =>
      match members.lookup (ascii key) with
      | none => .ok default
      | some member => get member
  | other => .error (conversions.typeError other)

/-- `json::at` followed by a conversion to a string. -/
def stringAt (request : Value) (key : String) : Except Bytes Bytes :=
  match request with
  | .object members =>
      match members.lookup (ascii key) with
      | none => .error (conversions.missingKey (ascii key))
      | some member => getString conversions member
  | other => .error (conversions.typeError other)

def topicListOptionsFromJson (payload : Bytes) : Except Bytes TopicListOptions := do
  let request ← parse codec payload
  let showTypes ← valueOr conversions request "show_types" (getBool conversions) false
  let countTopics ← valueOr conversions request "count_topics" (getBool conversions) false
  let includeHiddenTopics ←
    valueOr conversions request "include_hidden_topics" (getBool conversions) false
  let verbose ← valueOr conversions request "verbose" (getBool conversions) false
  return ⟨showTypes, countTopics, includeHiddenTopics, verbose⟩

def topicPubOptionsFromJson (payload : Bytes) : Except Bytes TopicPubOptions := do
  let request ← parse codec payload
  if request.isObject = false then
    throw (ascii "Topic pub request must be a JSON object")
  let topic ← requiredStringField request "topic" "topic must be a string" "topic must be non-empty"
  let msgType ← requiredStringField request "msg_type" "msg_type must be a string"
    "msg_type must be non-empty"
  let message ← requiredStringField request "payload" "payload must be a string"
    "payload must be non-empty"
  return ⟨topic, msgType, message⟩

def serviceListOptionsFromJson (payload : Bytes) : Except Bytes ServiceListOptions := do
  let request ← parse codec payload
  let showTypes ← valueOr conversions request "show_types" (getBool conversions) false
  let countServices ← valueOr conversions request "count_services" (getBool conversions) false
  let includeHiddenServices ←
    valueOr conversions request "include_hidden_services" (getBool conversions) false
  return ⟨showTypes, countServices, includeHiddenServices⟩

def clampTimeout (timeout : Int) : UInt8 := UInt8.ofNat (min (max timeout 0) 255).toNat

def serviceCallOptionsFromJson (payload : Bytes) : Except Bytes ServiceCallOptions := do
  let request ← parse codec payload
  if request.isObject = false then
    throw (ascii "Service call request must be a JSON object")
  let service ← requiredStringField request "service" "service must be a string"
    "service must be non-empty"
  let msgType ← requiredStringField request "msg_type" "msg_type must be a string"
    "msg_type must be non-empty"
  let message ← requiredStringField request "payload" "payload must be a string"
    "payload must be non-empty"
  let rawTimeoutSec ← valueOr conversions request "timeout_sec" conversions.getInt 0
  return ⟨service, msgType, message, clampTimeout rawTimeoutSec⟩

def interfaceShowOptionsFromJson (payload : Bytes) : Except Bytes InterfaceShowOptions := do
  let request ← parse codec payload
  let type ← valueOr conversions request "type" (getString conversions) []
  let allComments ← valueOr conversions request "all_comments" (getBool conversions) false
  let noComments ← valueOr conversions request "no_comments" (getBool conversions) false
  return ⟨type, allComments, noComments⟩

/-- The fields that `handleLatchedStateRpc` reads. -/
structure LatchedStateRequest where
  topic : Bytes
  msgType : Bytes
  data : Bytes
deriving DecidableEq, Repr

def latchedStateRequestFromJson (payload : Bytes) : Except Bytes LatchedStateRequest := do
  let request ← parse codec payload
  let topic ← stringAt conversions request "topic"
  let msgType ← stringAt conversions request "msg_type"
  let data ← stringAt conversions request "data"
  return ⟨topic, msgType, data⟩

end Requests

/-- The local commands behind the handlers. Any of them may throw. -/
structure LocalCommands where
  listTopics : TopicListOptions → Except Bytes Bytes
  publish : TopicPubOptions → Except Bytes CliResponse
  listServices : ServiceListOptions → Except Bytes Bytes
  call : ServiceCallOptions → Except Bytes CliResponse
  renderInterfaceDefinition : InterfaceShowOptions → Except Bytes (Option Bytes)

/-- What the inbound side of the latched forwarder uses: its configured topics, the
decoder, and ROS opening a publisher (`false` is an invalid handle) and publishing. -/
structure LatchedInbound where
  inboundTopics : List Bytes
  base64Decode : Bytes → Option Bytes
  openPublisher : Bytes → Bytes → Except Bytes Bool
  publish : Bytes → Bytes → Except Bytes Unit

/-- What a call of the manager leaves behind: how often it counted a failure in `rpc_failures`, and what
it returned or threw. -/
structure Outcome (Result : Type) where
  failures : Nat
  result : Except Bytes Result

namespace Outcome

variable {Result Other : Type}

def thrown (what : Bytes) : Outcome Result := ⟨0, .error what⟩

def map (outcome : Outcome Result) (convert : Result → Other) : Outcome Other :=
  ⟨outcome.failures, outcome.result.map convert⟩

/-- What a caught exception is answered with comes on top of what was counted before. -/
def catching (outcome : Outcome Result) (handler : Bytes → Outcome Result) : Outcome Result :=
  match outcome.result with
  | .ok _ => outcome
  | .error what => ⟨outcome.failures + (handler what).failures, (handler what).result⟩

end Outcome

def failure (errMsg : Bytes) : CliResponse := ⟨false, errMsg, []⟩

def listed (output : Bytes) : CliResponse := ⟨true, [], output⟩

/-- The text that an inbound handler returns, with the response it is the JSON of. -/
structure Reply (codec : Codec) where
  response : CliResponse
  text : Bytes
  dumped : codec.dump response.toJson = .ok text

def Outcome.text {codec : Codec} (outcome : Outcome (Reply codec)) : Except Bytes Bytes :=
  outcome.result.map Reply.text

section Handlers

variable (codec : Codec) (conversions : Conversions) (commands : LocalCommands)

def cliResponseToJson (response : CliResponse) : Except Bytes Bytes := codec.dump response.toJson

/-- The failure is counted before the response is dumped. -/
def makeInboundRpcResponse (response : CliResponse) : Outcome (Reply codec) where
  failures := if response.success then 0 else 1
  result :=
    match dumped : codec.dump response.toJson with
    | .ok text => .ok ⟨response, text, dumped⟩
    | .error what => .error what

def reportFailure (errMsg : Bytes) : Outcome (Reply codec) :=
  makeInboundRpcResponse codec (failure errMsg)

/-- The handlers that run their command and build its response inside one `try`
block. The responses to a malformed request and to an exception are built outside. -/
def handleGuarded {Options : Type} (options : Except Bytes Options)
    (command : Options → Except Bytes CliResponse) : Outcome (Reply codec) :=
  match options with
  | .error error => reportFailure codec error
  | .ok options =>
      let attempt : Outcome (Reply codec) :=
        match command options with
        | .error what => .thrown what
        | .ok response => makeInboundRpcResponse codec response
      attempt.catching (reportFailure codec)

def handleTopicListRpc (payload : Bytes) : Outcome (Reply codec) :=
  handleGuarded codec (topicListOptionsFromJson codec conversions payload)
    fun options => (commands.listTopics options).map listed

def handleTopicPubRpc (payload : Bytes) : Outcome (Reply codec) :=
  handleGuarded codec (topicPubOptionsFromJson codec payload) commands.publish

def handleServiceListRpc (payload : Bytes) : Outcome (Reply codec) :=
  handleGuarded codec (serviceListOptionsFromJson codec conversions payload)
    fun options => (commands.listServices options).map listed

/-- The error of an interface whose definition could not be rendered. -/
def notFoundMessage (options : InterfaceShowOptions) : Bytes :=
  if options.type = [] then ascii "the passed value is empty"
  else if options.type = ascii "-" then ascii "expected stdin pipe"
  else if options.allComments && options.noComments then
    ascii "all_comments and no_comments are mutually exclusive"
  else ascii "Could not find interface '" ++ options.type ++ ascii "'"

def showInterface (options : InterfaceShowOptions) : Option Bytes → CliResponse
  | none => failure (notFoundMessage options)
  | some output => listed output

def handleInterfaceShowRpc (payload : Bytes) : Outcome (Reply codec) :=
  handleGuarded codec (interfaceShowOptionsFromJson codec conversions payload)
    fun options => (commands.renderInterfaceDefinition options).map (showInterface options)

/-- Neither the call nor its response is guarded here. -/
def handleServiceCallRpc (payload : Bytes) : Outcome (Reply codec) :=
  match serviceCallOptionsFromJson codec conversions payload with
  | .error error => reportFailure codec error
  | .ok options =>
      match commands.call options with
      | .error what => .thrown what
      | .ok response => makeInboundRpcResponse codec response

/-- The response that `handleLatchedStateRpc` builds for a request it could read. -/
def latchedResponse (inbound : LatchedInbound) (request : LatchedStateRequest) : CliResponse :=
  let topic := request.topic
  if topic ∉ inbound.inboundTopics then
    failure (ascii "topic '" ++ topic ++ ascii "' is not a configured inbound latched topic")
  else
    match inbound.base64Decode request.data with
    | none => failure (ascii "invalid base64 payload for '" ++ topic ++ ascii "'")
    | some decoded =>
        match inbound.openPublisher topic request.msgType with
        | .error what =>
            failure (ascii "failed to create publisher for '" ++ topic ++ ascii "' [" ++
              request.msgType ++ ascii "]: " ++ what)
        | .ok false => failure (ascii "publisher handle invalid for '" ++ topic ++ ascii "'")
        | .ok true =>
            match inbound.publish topic decoded with
            | .error what => failure (ascii "failed to publish '" ++ topic ++ ascii "': " ++ what)
            | .ok () => ⟨true, [], []⟩

/-- The exception text of ROS that the latched handler quotes in its response. -/
def rosException (inbound : LatchedInbound) (request : LatchedStateRequest) : Option Bytes :=
  if request.topic ∉ inbound.inboundTopics then none
  else
    match inbound.base64Decode request.data with
    | none => none
    | some decoded =>
        match inbound.openPublisher request.topic request.msgType with
        | .error what => some what
        | .ok false => none
        | .ok true =>
            match inbound.publish request.topic decoded with
            | .error what => some what
            | .ok () => none

def handleLatchedStateRpc (inbound : LatchedInbound) (payload : Bytes) : Except Bytes Bytes :=
  match latchedStateRequestFromJson codec conversions payload with
  | .error what =>
      cliResponseToJson codec (failure (ascii "malformed latched-state request: " ++ what))
  | .ok request => cliResponseToJson codec (latchedResponse inbound request)

end Handlers

end RosPortal.Cli
