import RosPortal.Accounting.Tally
import RosPortal.Cli.Converters
import RosPortal.Cli.Responses

/-! The service forwarder: one local request is forwarded over RPC, and its response is
sent to the local caller. The request is counted where its outcome is known, and a
response that times out is counted once more. -/

set_option autoImplicit false

namespace RosPortal.Services

open JsonText Cli Accounting

structure ServiceRoute where
  service : Bytes
  msgType : Bytes
  participant : Bytes
deriving DecidableEq, Repr

/-- The counters of requests, and the category of the last failure. -/
structure DiagnosticState where
  requestsSucceeded : Nat := 0
  requestFailures : Nat := 0
  responseFailures : Nat := 0
  handlerExceptions : Nat := 0
  lastFailureReason : String := ""
deriving DecidableEq, Repr

inductive RequestCounter where
  | requestsSucceeded
  | requestFailures
  | responseFailures
  | handlerExceptions
deriving DecidableEq, Repr

instance : Fintype RequestCounter where
  elems := {.requestsSucceeded, .requestFailures, .responseFailures, .handlerExceptions}
  complete := by rintro (_ | _ | _ | _) <;> decide

namespace DiagnosticState

def count (state : DiagnosticState) : RequestCounter → Nat
  | .requestsSucceeded => state.requestsSucceeded
  | .requestFailures => state.requestFailures
  | .responseFailures => state.responseFailures
  | .handlerExceptions => state.handlerExceptions

def requestsCounted (state : DiagnosticState) : Nat :=
  state.requestsSucceeded + state.requestFailures + state.responseFailures + state.handlerExceptions

theorem sum_count (state : DiagnosticState) :
    ∑ counter, state.count counter = state.requestsCounted := by
  change state.requestsSucceeded + (state.requestFailures + (state.responseFailures +
    (state.handlerExceptions + 0))) = _
  simp only [requestsCounted, Nat.add_zero, Nat.add_assoc]

def recordLastFailure (state : DiagnosticState) (reason : String) : DiagnosticState :=
  { state with lastFailureReason := reason }

def recordSuccess (state : DiagnosticState) : DiagnosticState :=
  { state with requestsSucceeded := state.requestsSucceeded + 1 }

def recordRequestFailure (state : DiagnosticState) (reason : String) : DiagnosticState :=
  { state with requestFailures := state.requestFailures + 1 }.recordLastFailure reason

def recordResponseFailure (state : DiagnosticState) (reason : String) : DiagnosticState :=
  { state with responseFailures := state.responseFailures + 1 }.recordLastFailure reason

def recordHandlerException (state : DiagnosticState) : DiagnosticState :=
  { state with handlerExceptions := state.handlerExceptions + 1 }.recordLastFailure "handler_exception"

def recordResponseSendTimeout (state : DiagnosticState) : DiagnosticState :=
  state.recordResponseFailure "response_send_timeout"

section Counts

variable (state : DiagnosticState) (reason : String)

theorem count_success : AddsOneTo count .requestsSucceeded state state.recordSuccess := by
  refine ⟨rfl, ?_⟩
  rintro (_ | _ | _ | _) distinct <;> first | rfl | exact absurd rfl distinct

theorem count_requestFailure :
    AddsOneTo count .requestFailures state (state.recordRequestFailure reason) := by
  refine ⟨rfl, ?_⟩
  rintro (_ | _ | _ | _) distinct <;> first | rfl | exact absurd rfl distinct

theorem count_responseFailure :
    AddsOneTo count .responseFailures state (state.recordResponseFailure reason) := by
  refine ⟨rfl, ?_⟩
  rintro (_ | _ | _ | _) distinct <;> first | rfl | exact absurd rfl distinct

theorem count_handlerException :
    AddsOneTo count .handlerExceptions state state.recordHandlerException := by
  refine ⟨rfl, ?_⟩
  rintro (_ | _ | _ | _) distinct <;> first | rfl | exact absurd rfl distinct

end Counts

end DiagnosticState

/-- How the messages of the runtime types are read and written. Both may throw, and what is
written of a message that is not accepted stays in it. -/
structure MessageAccess (Message : Type) where
  toYaml : Bytes → Message → Except Bytes (Option Bytes)
  populateMessageFromYaml : Bytes → Bytes → Message → Message × Except Bytes Bool

section Forwarding

variable {Message : Type} (codec : Codec) (conversions : Conversions)

/-- What a handler leaves behind: the counters, the response, and what it has thrown. -/
structure Handled (Message : Type) where
  state : DiagnosticState
  response : Message
  thrown : Option Bytes := none

variable (livekit : LiveKitMethods) (access : MessageAccess Message) (route : ServiceRoute)

/-- The response as the remote service sent it, put into the local one. -/
def populateResponse (state : DiagnosticState) (output : Bytes) (response : Message) :
    Handled Message :=
  match access.populateMessageFromYaml (route.msgType ++ ascii "_Response") output response with
  | (populated, .error what) => ⟨state, populated, some what⟩
  | (populated, .ok false) =>
      { state := state.recordResponseFailure "response_deserialization", response := populated }
  | (populated, .ok true) => { state := state.recordSuccess, response := populated }

/-- The end of a request for which the RPC returned. -/
def receiveResponse (state : DiagnosticState) (rpcResponse : Option Bytes) (response : Message) :
    Handled Message :=
  match rpcResponse with
  | none => { state := state.recordRequestFailure "rpc_transport", response }
  | some text =>
      match cliResponseFromJson codec conversions text with
      | .error _ => { state := state.recordResponseFailure "malformed_response", response }
      | .ok remote =>
          if remote.success then populateResponse access route state remote.output response
          else { state := state.recordResponseFailure "remote_error", response }

def requestRpc (requestYaml : Bytes) : Except Bytes (Option Bytes) := do
  let serviceTimeoutSec := defaultTimeoutSec
  let request : ServiceCallRequest :=
    { participantId := [], service := route.service, msgType := route.msgType,
      payload := requestYaml, timeoutSec := serviceTimeoutSec }
  let payload ← serviceCallRequestToJson codec request serviceTimeoutSec
  livekit.performRpc route.participant (ascii "ros2_service_call") payload
    (serviceCallRpcTimeout serviceTimeoutSec)

def forwardRequest (request : Message) (state : DiagnosticState) (response : Message) :
    Handled Message :=
  match livekit.isRoomAvailable with
  | .error what => ⟨state, response, some what⟩
  | .ok false =>
      let message := ascii "success: false\nmessage: " ++ roomNotConnectedError ++ ascii "\n"
      match access.populateMessageFromYaml (route.msgType ++ ascii "_Response") message response with
      | (populated, .error what) => ⟨state, populated, some what⟩
      -- whether the response could be populated is ignored
      | (populated, .ok _) =>
          { state := state.recordRequestFailure "room_not_connected", response := populated }
  | .ok true =>
      match livekit.hasParticipant route.participant with
      | .error what => ⟨state, response, some what⟩
      | .ok false => { state := state.recordRequestFailure "participant_not_found", response }
      | .ok true =>
          match access.toYaml (route.msgType ++ ascii "_Request") request with
          | .error what => ⟨state, response, some what⟩
          | .ok none => { state := state.recordRequestFailure "request_serialization", response }
          | .ok (some requestYaml) =>
              match requestRpc codec livekit route requestYaml with
              | .error what => ⟨state, response, some what⟩
              | .ok rpcResponse =>
                  receiveResponse codec conversions access route state rpcResponse response

/-- The outcome of `rcl_send_response`. -/
inductive SendOutcome where
  | sent
  | timeout
  | failed
deriving DecidableEq, Repr

/-- One request of a local caller, with all that handling it meets. -/
structure ServiceRequest (Message : Type) where
  livekit : LiveKitMethods
  access : MessageAccess Message
  route : ServiceRoute
  request : Message
  emptyResponse : Message
  sendOutcome : SendOutcome

/-- The `try` block of `handle_request`. -/
def runHandler (state : DiagnosticState) (request : ServiceRequest Message) : DiagnosticState :=
  let handled := forwardRequest codec conversions request.livekit request.access request.route
    request.request state request.emptyResponse
  match handled.thrown with
  | none => handled.state
  | some _ => handled.state.recordHandlerException

/-- A response that could not be sent at all makes `handle_request` throw, and is not counted. -/
def handleRequest (state : DiagnosticState) (request : ServiceRequest Message) : DiagnosticState :=
  let handled := runHandler codec conversions state request
  match request.sendOutcome with
  | .timeout => handled.recordResponseSendTimeout
  | .sent | .failed => handled

def handleRequests (requests : List (ServiceRequest Message)) : DiagnosticState :=
  requests.foldl (handleRequest codec conversions) {}

end Forwarding

section Outcomes

variable {Message : Type} {codec : Codec} {conversions : Conversions} {livekit : LiveKitMethods}
  {access : MessageAccess Message} {route : ServiceRoute} {state : DiagnosticState} {response : Message}

/-- A handler that threw has counted nothing, and one that returned has counted its request
once, but not as an exception. -/
def CountsUnlessThrown (state : DiagnosticState) (handled : Handled Message) : Prop :=
  match handled.thrown with
  | some _ => handled.state = state
  | none => ∃ counter, counter ≠ .handlerExceptions ∧
      AddsOneTo DiagnosticState.count counter state handled.state

theorem counts_success (populated : Message) :
    CountsUnlessThrown state { state := state.recordSuccess, response := populated } :=
  ⟨.requestsSucceeded, by decide, state.count_success⟩

theorem counts_requestFailure (reason : String) (populated : Message) :
    CountsUnlessThrown state { state := state.recordRequestFailure reason, response := populated } :=
  ⟨.requestFailures, by decide, state.count_requestFailure reason⟩

theorem counts_responseFailure (reason : String) (populated : Message) :
    CountsUnlessThrown state { state := state.recordResponseFailure reason, response := populated } :=
  ⟨.responseFailures, by decide, state.count_responseFailure reason⟩

theorem counts_thrown (what : Bytes) (populated : Message) :
    CountsUnlessThrown state ⟨state, populated, some what⟩ := by
  unfold CountsUnlessThrown
  rfl

theorem populateResponse_counts (output : Bytes) :
    CountsUnlessThrown state (populateResponse access route state output response) := by
  unfold populateResponse
  split
  · apply counts_thrown
  · apply counts_responseFailure
  · apply counts_success

theorem receiveResponse_counts (rpcResponse : Option Bytes) :
    CountsUnlessThrown state
      (receiveResponse codec conversions access route state rpcResponse response) := by
  cases rpcResponse with
  | none => apply counts_requestFailure
  | some text =>
      simp only [receiveResponse]
      split
      · apply counts_responseFailure
      · split_ifs
        · apply populateResponse_counts
        · apply counts_responseFailure

theorem forwardRequest_counts (request : Message) :
    CountsUnlessThrown state
      (forwardRequest codec conversions livekit access route request state response) := by
  unfold forwardRequest
  split
  · apply counts_thrown
  · simp only
    split
    · apply counts_thrown
    · apply counts_requestFailure
  · split
    · apply counts_thrown
    · apply counts_requestFailure
    · split
      · apply counts_thrown
      · apply counts_requestFailure
      · split
        · apply counts_thrown
        · apply receiveResponse_counts

end Outcomes

section Runs

variable {Message : Type} (codec : Codec) (conversions : Conversions)

theorem runHandler_counts (state : DiagnosticState) (request : ServiceRequest Message) :
    ∃ counter, AddsOneTo DiagnosticState.count counter state
      (runHandler codec conversions state request) := by
  have counted : CountsUnlessThrown state (forwardRequest codec conversions request.livekit
      request.access request.route request.request state request.emptyResponse) :=
    forwardRequest_counts request.request
  unfold runHandler
  unfold CountsUnlessThrown at counted
  split at counted
  next threw =>
    simp only [threw, counted]
    exact ⟨_, state.count_handlerException⟩
  next returned =>
    simp only [returned]
    obtain ⟨counter, _, one⟩ := counted
    exact ⟨counter, one⟩

variable {codec conversions}

theorem handleRequest_counts {request : ServiceRequest Message}
    (inTime : request.sendOutcome ≠ .timeout) (state : DiagnosticState) :
    ∃ counter, AddsOneTo DiagnosticState.count counter state
      (handleRequest codec conversions state request) := by
  obtain ⟨counter, one⟩ := runHandler_counts codec conversions state request
  refine ⟨counter, ?_⟩
  unfold handleRequest
  cases outcome : request.sendOutcome with
  | timeout => exact absurd outcome inTime
  | sent | failed => exact one

/-- A request whose response times out is counted twice. -/
theorem requestsCounted_of_timeout {request : ServiceRequest Message}
    (late : request.sendOutcome = .timeout) (state : DiagnosticState) :
    (handleRequest codec conversions state request).requestsCounted = state.requestsCounted + 2 := by
  obtain ⟨_, one⟩ := runHandler_counts codec conversions state request
  have other := (runHandler codec conversions state request).count_responseFailure
    "response_send_timeout"
  have first := one.total
  have second := other.total
  simp only [DiagnosticState.sum_count] at first second
  rw [handleRequest, late]
  simp only [DiagnosticState.recordResponseSendTimeout]
  omega

/-- The four counters partition the requests exactly when no response times out. -/
theorem requests_partitioned_iff (requests : List (ServiceRequest Message)) :
    ((handleRequests codec conversions requests).requestsCounted = requests.length ∧
        EachAddsOne (handleRequest codec conversions) DiagnosticState.count {} requests) ↔
      ∀ request ∈ requests, request.sendOutcome ≠ .timeout := by
  constructor
  · intro ⟨_, each⟩ request member late
    obtain ⟨before, after, split⟩ := List.append_of_mem member
    obtain ⟨_, one, _⟩ := each before request after split
    have total := one.total
    simp only [DiagnosticState.sum_count, requestsCounted_of_timeout late] at total
    omega
  · intro inTime
    have each : EachAddsOne (handleRequest codec conversions) DiagnosticState.count {} requests := by
      apply eachAddsOne_of_step
      intro request member
      exact handleRequest_counts (inTime request member)
    refine ⟨?_, each⟩
    have total := each.total
    simp only [DiagnosticState.sum_count] at total
    simpa [handleRequests, DiagnosticState.requestsCounted] using total

/-- A caller that is gone by the time it is told that the room is not connected. -/
def goneCaller : ServiceRequest Bytes where
  livekit := ⟨.ok false, fun _ => .ok true, fun _ _ _ _ => .ok none⟩
  access := ⟨fun _ request => .ok (some request), fun _ yaml _ => (yaml, .ok true)⟩
  route := ⟨ascii "/set_bool", ascii "std_srvs/srv/SetBool", ascii "robot"⟩
  request := ascii "data: true"
  emptyResponse := []
  sendOutcome := .timeout

/-- One request is a request failure and a response failure. -/
theorem late_response_counted_twice :
    handleRequests (flatCodec []) narrowingConversions [goneCaller] =
        { requestFailures := 1, responseFailures := 1, lastFailureReason := "response_send_timeout" } ∧
      (handleRequests (flatCodec []) narrowingConversions [goneCaller]).requestsCounted ≠
        [goneCaller].length := by
  have counters : handleRequests (flatCodec []) narrowingConversions [goneCaller] =
      { requestFailures := 1, responseFailures := 1, lastFailureReason := "response_send_timeout" } :=
    rfl
  refine ⟨counters, ?_⟩
  rw [counters]
  decide

end Runs

end RosPortal.Services
