import RosPortal.Accounting.Tally
import RosPortal.Cli.Manager

/-! When `rpc_failures` counts the failures that the manager's calls returned. -/

set_option autoImplicit false

namespace RosPortal.Cli.Manager

open JsonText Accounting

section Counting

def returnsFailure : Except Bytes CliResponse → Bool
  | .ok response => !response.success
  | .error _ => false

/-- The call counted a failure if it returned one, and nothing otherwise. -/
def CountsOnce (outcome : Outcome CliResponse) : Prop :=
  outcome.failures = (returnsFailure outcome.result).toNat

variable {codec : Codec} {conversions : Conversions}

theorem countsOnce_thrown (what : Bytes) : CountsOnce (.thrown what) := rfl

theorem countsOnce_recorded (response : CliResponse) : CountsOnce (recordRemoteResult response) := by
  obtain ⟨success, errMsg, output⟩ := response
  cases success <;> rfl

theorem not_countsOnce_unrecorded (errMsg : Bytes) : ¬ CountsOnce (unrecorded (failure errMsg)) := by
  intro once
  cases once

end Counting

section Outbound

variable {codec : Codec} {conversions : Conversions} {livekit : LiveKitMethods}

theorem countsOnce_sendRequest (participantId : Bytes) (rpcMethod : String) (timeoutSec : UInt8)
    (payload : Bytes) :
    CountsOnce (sendRequest codec conversions livekit participantId rpcMethod timeoutSec payload) := by
  unfold sendRequest
  split
  · apply countsOnce_thrown
  · apply countsOnce_recorded

theorem countsOnce_withPayload {payload : Except Bytes Bytes} {next : Bytes → Outcome CliResponse}
    (sends : ∀ text, CountsOnce (next text)) : CountsOnce (withPayload payload next) := by
  cases payload with
  | error what => apply countsOnce_thrown
  | ok text => exact sends text

/-- Past its own checks, a request is miscounted exactly if the room is not available. -/
theorem countsOnce_whenReachable_iff {participantId : Bytes} {send : Outcome CliResponse}
    (sends : CountsOnce send) :
    CountsOnce (whenReachable livekit participantId send) ↔ livekit.isRoomAvailable ≠ .ok false := by
  unfold whenReachable
  split
  next what looked =>
    rw [looked]
    exact iff_of_true (countsOnce_thrown what) (by simp)
  next looked =>
    rw [looked]
    exact iff_of_false (not_countsOnce_unrecorded _) (by simp)
  next looked =>
    refine iff_of_true ?_ (by simp [looked])
    split
    · apply countsOnce_thrown
    · apply countsOnce_recorded
    · exact sends

end Outbound

section Inbound

variable {codec : Codec} {conversions : Conversions}

def CountsReplyOnce (outcome : Outcome (Reply codec)) : Prop :=
  CountsOnce (outcome.map Reply.response)

def FailsInUtf8 (response : CliResponse) : Prop :=
  response.success = false → validUtf8 response.errMsg = true ∧ validUtf8 response.output = true

def ThrowsUtf8 {Options Result : Type} (options : Except Bytes Options)
    (command : Options → Except Bytes Result) : Prop :=
  ∀ accepted, options = .ok accepted → ∀ what, command accepted = .error what → validUtf8 what = true

/-- The response of the command to the request in the payload is UTF-8 if it reports failure. -/
def RespondsInUtf8 {Options : Type} (options : Except Bytes Options)
    (command : Options → Except Bytes CliResponse) : Prop :=
  ∀ accepted, options = .ok accepted →
    ∀ response, command accepted = .ok response → FailsInUtf8 response

theorem makeInboundRpcResponse_result (response : CliResponse) :
    (makeInboundRpcResponse codec response).result.map Reply.response =
      (cliResponseToJson codec response).map fun _ => response := by
  unfold makeInboundRpcResponse cliResponseToJson
  simp only
  split
  next text dumped => simp [Except.map, dumped]
  next what threw => simp [Except.map, threw]

theorem countsOnce_makeInboundRpcResponse_iff (strict : codec.Strict) (response : CliResponse) :
    CountsReplyOnce (makeInboundRpcResponse codec response) ↔ FailsInUtf8 response := by
  unfold CountsReplyOnce CountsOnce
  simp only [Outcome.map, makeInboundRpcResponse_result]
  rw [FailsInUtf8, ← cliResponseToJson_iff strict]
  cases cliResponseToJson codec response <;> cases reported : response.success <;>
    simp [makeInboundRpcResponse, returnsFailure, Except.map, reported]

theorem countsOnce_reportFailure_iff (strict : codec.Strict) (errMsg : Bytes) :
    CountsReplyOnce (reportFailure codec errMsg) ↔ validUtf8 errMsg = true := by
  rw [reportFailure, countsOnce_makeInboundRpcResponse_iff strict, FailsInUtf8]
  simp only [failure, true_implies]
  exact and_iff_left rfl

/-- What the writer throws is plain, and says that a text of the response is not UTF-8. -/
theorem makeInboundRpcResponse_throws (strict : codec.Strict) {response : CliResponse} {what : Bytes}
    (threw : (makeInboundRpcResponse codec response).result = .error what) :
    IsAscii what ∧ ¬ (validUtf8 response.errMsg = true ∧ validUtf8 response.output = true) := by
  have result := @makeInboundRpcResponse_result codec response
  rw [threw] at result
  have dumped : cliResponseToJson codec response = .error what := by
    cases written : cliResponseToJson codec response with
    | ok text => simp [written, Except.map] at result
    | error other => simpa [written, Except.map] using result.symm
  rw [← toJson_utf8_iff]
  by_cases valid : response.toJson.Utf8
  · obtain ⟨text, written⟩ := strict.dumps valid
    cases dumped.symm.trans written
  · obtain ⟨other, said, plain⟩ := strict.throws valid
    cases dumped.symm.trans said
    exact ⟨plain, valid⟩

theorem countsOnce_caught_iff (strict : codec.Strict) (response : CliResponse) :
    CountsReplyOnce ((makeInboundRpcResponse codec response).catching (reportFailure codec)) ↔
      FailsInUtf8 response := by
  cases made : (makeInboundRpcResponse codec response).result with
  | ok reply =>
      have kept : (makeInboundRpcResponse codec response).catching (reportFailure codec) =
          makeInboundRpcResponse codec response := by
        simp [Outcome.catching, made]
      rw [kept, countsOnce_makeInboundRpcResponse_iff strict]
  | error what =>
      obtain ⟨plain, invalid⟩ := makeInboundRpcResponse_throws strict made
      have reported := (countsOnce_reportFailure_iff strict what).mpr (valid_ascii plain)
      unfold CountsReplyOnce CountsOnce at reported ⊢
      simp only [Outcome.map] at reported
      simp only [Outcome.catching, made, Outcome.map, reported]
      rw [FailsInUtf8, imp_iff_not invalid, Bool.not_eq_false, Nat.add_eq_right]
      cases reported : response.success <;> simp [makeInboundRpcResponse, reported]

/-- A guarded command counts once unless it throws text that is not UTF-8, or fails with such
text and is counted again when its response cannot be dumped. -/
theorem countsOnce_handleGuarded_iff {Options : Type} (strict : codec.Strict) {payload : Bytes}
    {options : Except Bytes Options} (reports : Reports codec payload options)
    (command : Options → Except Bytes CliResponse) :
    CountsReplyOnce (handleGuarded codec options command) ↔
      StopsBetweenCharacters codec payload ∧ ThrowsUtf8 options command ∧
        RespondsInUtf8 options command := by
  cases read : options with
  | error what =>
      rw [handleGuarded, countsOnce_reportFailure_iff strict, rejected_valid_iff strict reports read]
      simp [ThrowsUtf8, RespondsInUtf8]
  | ok accepted =>
      simp only [handleGuarded, stops_of_accepted reports read, true_and, ThrowsUtf8, RespondsInUtf8,
        Except.ok.injEq]
      cases ran : command accepted with
      | error what =>
          have caught : (Outcome.thrown what : Outcome (Reply codec)).catching (reportFailure codec) =
              reportFailure codec what := by
            simp [Outcome.catching, Outcome.thrown]
          rw [caught, countsOnce_reportFailure_iff strict]
          simp [ran]
      | ok response =>
          rw [countsOnce_caught_iff strict]
          simp [ran]

theorem countsOnce_handleServiceCallRpc_iff (strict : codec.Strict) (plain : conversions.Plain)
    (commands : LocalCommands) (payload : Bytes) :
    CountsReplyOnce (handleServiceCallRpc codec conversions commands payload) ↔
      StopsBetweenCharacters codec payload ∧
        RespondsInUtf8 (serviceCallOptionsFromJson codec conversions payload) commands.call := by
  have reports : Reports codec payload (serviceCallOptionsFromJson codec conversions payload) :=
    reports_serviceCall plain
  unfold handleServiceCallRpc
  cases read : serviceCallOptionsFromJson codec conversions payload with
  | error what =>
      simp only
      rw [countsOnce_reportFailure_iff strict, rejected_valid_iff strict reports read]
      simp [RespondsInUtf8]
  | ok accepted =>
      simp only [stops_of_accepted reports read, true_and, RespondsInUtf8, Except.ok.injEq]
      cases called : commands.call accepted with
      | error what =>
          refine iff_of_true (countsOnce_thrown what) ?_
          rintro _ rfl response returned
          cases called.symm.trans returned
      | ok response =>
          simp only
          rw [countsOnce_makeInboundRpcResponse_iff strict]
          simp [called]

end Inbound

section Calls

/-- The request has nothing missing that the call checks before it looks at the room. -/
def Complete : Command → Prop
  | .topicList request => request.participantId ≠ []
  | .topicPub request => request.participantId ≠ []
  | .serviceList request => request.participantId ≠ []
  | .serviceCall request =>
      request.participantId ≠ [] ∧ request.service ≠ [] ∧ request.msgType ≠ [] ∧ request.payload ≠ []
  | .interfaceShow request =>
      request.participantId ≠ [] ∧ (request.allComments && request.noComments) = false

inductive InboundMethod where
  | topicList
  | topicPub
  | serviceList
  | serviceCall
  | interfaceShow
deriving DecidableEq, Repr

/-- A call of the manager, with the room or the commands as it finds them. -/
inductive CliCall where
  | outbound (livekit : LiveKitMethods) (request : Command)
  | inbound (commands : LocalCommands) (rpcMethod : InboundMethod) (payload : Bytes)

variable (codec : Codec) (conversions : Conversions)

def handleRpc (commands : LocalCommands) (payload : Bytes) : InboundMethod → Outcome (Reply codec)
  | .topicList => handleTopicListRpc codec conversions commands payload
  | .topicPub => handleTopicPubRpc codec commands payload
  | .serviceList => handleServiceListRpc codec conversions commands payload
  | .serviceCall => handleServiceCallRpc codec conversions commands payload
  | .interfaceShow => handleInterfaceShowRpc codec conversions commands payload

def CliCall.run : CliCall → Outcome CliResponse
  | .outbound livekit request => callRemote codec conversions livekit request
  | .inbound commands rpcMethod payload =>
      (handleRpc codec conversions commands payload rpcMethod).map Reply.response

/-- No text of the command that a failure would quote is other than UTF-8. -/
def QuotesUtf8 (commands : LocalCommands) (payload : Bytes) : InboundMethod → Prop
  | .topicList => ThrowsUtf8 (topicListOptionsFromJson codec conversions payload) commands.listTopics
  | .topicPub =>
      ThrowsUtf8 (topicPubOptionsFromJson codec payload) commands.publish ∧
        RespondsInUtf8 (topicPubOptionsFromJson codec payload) commands.publish
  | .serviceList =>
      ThrowsUtf8 (serviceListOptionsFromJson codec conversions payload) commands.listServices
  | .serviceCall =>
      RespondsInUtf8 (serviceCallOptionsFromJson codec conversions payload) commands.call
  | .interfaceShow =>
      ThrowsUtf8 (interfaceShowOptionsFromJson codec conversions payload)
        commands.renderInterfaceDefinition

/-- A call that counts once: an outbound one that gets past its checks finds the room available,
and an inbound one has only UTF-8 to quote. -/
def CliCall.Regular : CliCall → Prop
  | .outbound livekit request => Complete request → livekit.isRoomAvailable ≠ .ok false
  | .inbound commands rpcMethod payload =>
      StopsBetweenCharacters codec payload ∧ QuotesUtf8 codec conversions commands payload rpcMethod

def rpcFailures (calls : List CliCall) : Nat :=
  tally (fun call => (call.run codec conversions).failures) calls

variable {codec conversions}

theorem countsOnce_rejected (errMsg : String) : CountsOnce (rejected errMsg) :=
  countsOnce_recorded _

/-- A check that fails is counted, so a call with one more check is regular where that fails. -/
theorem countsOnce_checked_iff {failing : Prop} [Decidable failing] {errMsg : String}
    {rest : Outcome CliResponse} {regular : Prop} (checked : CountsOnce rest ↔ regular) :
    CountsOnce (if failing then rejected errMsg else rest) ↔ (¬ failing → regular) := by
  split_ifs with failed
  · exact iff_of_true (countsOnce_rejected errMsg) fun passed => absurd failed passed
  · rw [checked]
    exact (imp_iff_right failed).symm

theorem countsOnce_callRemote_iff (livekit : LiveKitMethods) (request : Command) :
    CountsOnce (callRemote codec conversions livekit request) ↔
      (Complete request → livekit.isRoomAvailable ≠ .ok false) := by
  cases request with
  | topicList request | serviceList request =>
      apply countsOnce_checked_iff
      apply countsOnce_whenReachable_iff
      exact countsOnce_withPayload (countsOnce_sendRequest _ _ _)
  | topicPub request =>
      apply countsOnce_checked_iff
      apply countsOnce_whenReachable_iff
      apply countsOnce_withPayload
      intro payload
      split
      · apply countsOnce_recorded
      · apply countsOnce_sendRequest
  | serviceCall request =>
      simp only [Complete, and_imp]
      refine countsOnce_checked_iff (countsOnce_checked_iff (countsOnce_checked_iff
        (countsOnce_checked_iff (countsOnce_whenReachable_iff ?_))))
      exact countsOnce_withPayload (countsOnce_sendRequest _ _ _)
  | interfaceShow request =>
      simp only [Complete, and_imp, ← Bool.not_eq_true]
      refine countsOnce_checked_iff (countsOnce_checked_iff (countsOnce_whenReachable_iff ?_))
      exact countsOnce_withPayload (countsOnce_sendRequest _ _ _)

theorem throwsUtf8_map_iff {Options Result : Type} {options : Except Bytes Options}
    {command : Options → Except Bytes Result} {build : Options → Result → CliResponse} :
    ThrowsUtf8 options (fun accepted => (command accepted).map (build accepted)) ↔
      ThrowsUtf8 options command := by
  have mapped : ∀ accepted what,
      (command accepted).map (build accepted) = .error what ↔ command accepted = .error what := by
    intro accepted what
    cases command accepted <;> simp [Except.map]
  simp only [ThrowsUtf8, mapped]

/-- A command whose failures quote no foreign text needs no more than to throw UTF-8. -/
theorem countsOnce_handleGuarded_map_iff {Options Result : Type} (strict : codec.Strict)
    {payload : Bytes} {options : Except Bytes Options} (reports : Reports codec payload options)
    {command : Options → Except Bytes Result} {build : Options → Result → CliResponse}
    (builds : ∀ accepted result, options = .ok accepted → FailsInUtf8 (build accepted result)) :
    CountsReplyOnce
        (handleGuarded codec options fun accepted => (command accepted).map (build accepted)) ↔
      StopsBetweenCharacters codec payload ∧ ThrowsUtf8 options command := by
  rw [countsOnce_handleGuarded_iff strict reports, throwsUtf8_map_iff]
  refine and_congr_right' (and_iff_left ?_)
  intro accepted read response mapped
  cases ran : command accepted with
  | error what => simp [ran, Except.map] at mapped
  | ok result =>
      simp only [ran, Except.map, Except.ok.injEq] at mapped
      rw [← mapped]
      exact builds accepted result read

theorem failsInUtf8_listed (output : Bytes) : FailsInUtf8 (listed output) := by
  intro failed
  cases failed

theorem interfaceShowOptions_utf8 (strict : codec.Strict) {payload : Bytes}
    {options : InterfaceShowOptions}
    (read : interfaceShowOptionsFromJson codec conversions payload = .ok options) :
    validUtf8 options.type = true := by
  obtain ⟨request, parsed, read⟩ := bind_ok read
  obtain ⟨type, typeRead, read⟩ := bind_ok read
  obtain ⟨_, _, read⟩ := bind_ok read
  obtain ⟨_, _, read⟩ := bind_ok read
  cases read
  cases request with
  | object members =>
      cases found : members.lookup (ascii "type") with
      | none =>
          simp only [valueOr, found] at typeRead
          cases typeRead
          rfl
      | some member =>
          simp only [valueOr, found] at typeRead
          rw [getString_ok typeRead] at found
          exact (strict.reads (parse_ok parsed)).find found _ .here
  | null | boolean _ | integer _ | float _ | string _ | array _ => cases typeRead

theorem failsInUtf8_showInterface {options : InterfaceShowOptions}
    (valid : validUtf8 options.type = true) (output : Option Bytes) :
    FailsInUtf8 (showInterface options output) := by
  cases output with
  | some output => exact failsInUtf8_listed output
  | none =>
      intro _
      refine ⟨?_, rfl⟩
      change validUtf8 (notFoundMessage options) = true
      unfold notFoundMessage
      split_ifs
      · decide +kernel
      · decide +kernel
      · decide +kernel
      · rw [valid_quoted (by decide +kernel) (by decide +kernel), valid]

theorem countsOnce_handleRpc_iff (strict : codec.Strict) (plain : conversions.Plain)
    (commands : LocalCommands) (payload : Bytes) (rpcMethod : InboundMethod) :
    CountsReplyOnce (handleRpc codec conversions commands payload rpcMethod) ↔
      StopsBetweenCharacters codec payload ∧
        QuotesUtf8 codec conversions commands payload rpcMethod := by
  cases rpcMethod with
  | topicList =>
      apply countsOnce_handleGuarded_map_iff strict (reports_topicList plain)
      intro _ output _
      exact failsInUtf8_listed output
  | topicPub => exact countsOnce_handleGuarded_iff strict reports_topicPub commands.publish
  | serviceList =>
      apply countsOnce_handleGuarded_map_iff strict (reports_serviceList plain)
      intro _ output _
      exact failsInUtf8_listed output
  | serviceCall => exact countsOnce_handleServiceCallRpc_iff strict plain commands payload
  | interfaceShow =>
      apply countsOnce_handleGuarded_map_iff strict (reports_interfaceShow plain)
      intro options output read
      exact failsInUtf8_showInterface (interfaceShowOptions_utf8 strict read) output

/-- The counter agrees with the failures that were returned, after each of the calls, exactly
when every call is regular. -/
theorem rpcFailures_eq_iff (strict : codec.Strict) (plain : conversions.Plain) (calls : List CliCall) :
    (∀ earlier, earlier <+: calls → rpcFailures codec conversions earlier =
        earlier.countP fun call => returnsFailure (call.run codec conversions).result) ↔
      ∀ call ∈ calls, call.Regular codec conversions := by
  unfold rpcFailures
  rw [tally_eq_countP_iff]
  refine forall₂_congr ?_
  intro call _
  cases call with
  | outbound livekit request => exact countsOnce_callRemote_iff livekit request
  | inbound commands rpcMethod payload =>
      exact countsOnce_handleRpc_iff strict plain commands payload rpcMethod

def emptyRoom : LiveKitMethods := ⟨.ok true, fun _ => .ok false, fun _ _ _ _ => .ok none⟩

def disconnectedRoom : LiveKitMethods := { emptyRoom with isRoomAvailable := .ok false }

def listRequest : TopicListRequest := ⟨ascii "robot", false, false, false, false, 0⟩

def regularCalls : List CliCall :=
  [.outbound emptyRoom (.topicList listRequest), .inbound idleCommands .topicList (ascii "x")]

theorem rpcFailures_of_absent_participant :
    (∀ call ∈ regularCalls, call.Regular stoppingCodec plainConversions) ∧
      ∀ earlier, earlier <+: regularCalls → rpcFailures stoppingCodec plainConversions earlier =
        earlier.countP fun call => returnsFailure (call.run stoppingCodec plainConversions).result := by
  have regular : ∀ call ∈ regularCalls, call.Regular stoppingCodec plainConversions := by
    simp only [regularCalls, List.forall_mem_cons, List.not_mem_nil, false_implies, implies_true, and_true]
    refine ⟨fun _ => by decide, ?_, ?_⟩
    · intro error failed
      simp only [stoppingCodec, Except.error.injEq] at failed
      subst failed
      exact (by decide : validUtf8 ((ascii "x").take 1) = true)
    · intro options read
      cases read
  exact ⟨regular, (rpcFailures_eq_iff stoppingCodec_strict plainConversions_plain regularCalls).mpr regular⟩

/-- A request while the room is not connected fails, and is not counted. -/
theorem disconnected_request_not_counted :
    rpcFailures stoppingCodec plainConversions
        [CliCall.outbound disconnectedRoom (.topicList listRequest)] = 0 ∧
      [CliCall.outbound disconnectedRoom (.topicList listRequest)].countP
        (fun call => returnsFailure (call.run stoppingCodec plainConversions).result) = 1 :=
  ⟨rfl, rfl⟩

end Calls

end RosPortal.Cli.Manager
