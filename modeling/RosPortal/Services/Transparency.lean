import RosPortal.Cli.RemoteCommand
import RosPortal.Cli.ServiceResponses
import RosPortal.Services.Forwarder

/-! A forwarded service end to end: the request of a local caller, the call that the other portal
makes for it among its other calls, and the response that the local caller gets. -/

set_option autoImplicit false

namespace RosPortal.Services

open JsonText Cli Interleaving

section Settled

variable {Message : Type} (access : MessageAccess Message) (route : ServiceRoute)

/-- What becomes of a request that the other portal gave this answer, or none. -/
def settle (state : DiagnosticState) (response : Message) : Option CliResponse → Handled Message
  | none => { state := state.recordRequestFailure "rpc_transport", response }
  | some remote =>
      if remote.success then populateResponse access route state remote.output response
      else { state := state.recordResponseFailure "remote_error", response }

/-- The call that the other portal makes for a request. -/
def forwardedOptions (requestYaml : Bytes) : ServiceCallOptions :=
  ⟨route.service, route.msgType, rightTrim (leftTrim requestYaml), defaultTimeoutSec⟩

/-- The request as it is written for the RPC. -/
def forwardedJson (requestYaml : Bytes) : Value :=
  serviceCallRequestJson ⟨[], route.service, route.msgType, requestYaml, defaultTimeoutSec⟩ defaultTimeoutSec

variable {access route} {codec : Codec} {conversions : Conversions} {commands : LocalCommands}
  {portals : Bytes → Option LocalCommands} {delivered : Bytes → Bytes → Bool}

theorem receiveResponse_room {replied : Except Bytes Bytes} {answer : Option CliResponse}
    (answers : AnsweredBy codec replied answer) (reached : Bool) (state : DiagnosticState) (response : Message) :
    receiveResponse codec conversions access route state (if reached then replied.toOption else none) response =
      settle access route state response (if reached then answer else none) := by
  cases reached with
  | false => rfl
  | true =>
      cases answers with
      | threw => rfl
      | returned parsed =>
          simp only [if_true, Except.toOption, receiveResponse, cliResponseFromJson_of_parse parsed]
          rfl

/-- The outcome of a forwarded request is that of the other portal's call. -/
theorem forwardRequest_room (narrows : conversions.Narrows) {request response : Message} {requestYaml : Bytes}
    (written : access.toYaml (route.msgType ++ ascii "_Request") request = .ok (some requestYaml))
    (found : portals route.participant = some commands)
    (sendable : Sendable route.service route.msgType requestYaml)
    (asks : codec.WritesBack (forwardedJson route requestYaml))
    (answers : ∀ answer, commands.call (forwardedOptions route requestYaml) = .ok answer → Tellable codec answer)
    (state : DiagnosticState) :
    forwardRequest codec conversions (room codec conversions portals delivered) access route request state response =
      settle access route state response
        (if delivered route.participant (ascii "ros2_service_call") then
          (commands.call (forwardedOptions route requestYaml)).toOption
        else none) := by
  obtain ⟨text, dumped, read⟩ := serviceCall_arrives narrows asks sendable
  have handled : AnsweredBy codec (answerRpc codec conversions commands (ascii "ros2_service_call") text)
      (commands.call (forwardedOptions route requestYaml)).toOption := by
    rw [answerRpc, if_neg (by decide), if_neg (by decide), if_neg (by decide), if_pos rfl]
    exact handleServiceCallRpc_answers read answers
  have received : receiveResponse codec conversions access route state
      (if delivered route.participant (ascii "ros2_service_call") then
        (answerRpc codec conversions commands (ascii "ros2_service_call") text).toOption
      else none) response = _ := receiveResponse_room handled _ state response
  rw [← received]
  simp only [forwardRequest, room, found, Option.isSome_some, written, requestRpc, dumped]
  rfl

end Settled

section Own

variable {Message Content : Type} [DecidableEq Content] {access : MessageAccess Message} {route : ServiceRoute}
  {codec : Codec} {conversions : Conversions} {commands : LocalCommands}
  {portals : Bytes → Option LocalCommands} {delivered : Bytes → Bytes → Bool}

theorem succeeded_of_settle {state : DiagnosticState} {response : Message} {answer : Option CliResponse}
    (counted : (settle access route state response answer).state = state.recordSuccess) :
    ∃ remote, answer = some remote ∧ remote.success = true ∧
      access.populateMessageFromYaml (route.msgType ++ ascii "_Response") remote.output response =
        ((settle access route state response answer).response, .ok true) := by
  have unlike : ∀ other : DiagnosticState, other.requestsSucceeded = state.requestsSucceeded →
      other ≠ state.recordSuccess := by
    rintro other same rfl
    exact absurd same (Nat.succ_ne_self _)
  cases answer with
  | none => exact absurd counted (unlike _ rfl)
  | some remote =>
      refine ⟨remote, rfl, ?_⟩
      simp only [settle] at counted ⊢
      cases success : remote.success with
      | false =>
          rw [success] at counted
          exact absurd counted (unlike _ rfl)
      | true =>
          rw [success] at counted
          refine ⟨rfl, ?_⟩
          simp only [if_true, populateResponse] at counted ⊢
          split at counted
          next => exact absurd counted (unlike _ rfl)
          next => exact absurd counted (unlike _ rfl)
          next populated same => simp only [same]

/-- A request that is counted as a success has got the response that the service sent to the call
made for it, whatever other calls the other portal makes at the same time. -/
theorem forwarded_response_own (narrows : conversions.Narrows) {request response : Message} {requestYaml : Bytes}
    (written : access.toYaml (route.msgType ++ ascii "_Request") request = .ok (some requestYaml))
    (found : portals route.participant = some commands)
    (sendable : Sendable route.service route.msgType requestYaml)
    (asks : codec.WritesBack (forwardedJson route requestYaml))
    (answers : ∀ answer, commands.call (forwardedOptions route requestYaml) = .ok answer → Tellable codec answer)
    {toYaml : Bytes → Content → Except Bytes (Option Bytes)} {calls : List ServiceCallOptions}
    {pool : Pool (ServiceCall.Shared Content) (ServiceCall.Control Content)}
    (reached : (ServiceCall.program route.msgType toYaml).machine.Reaches (ServiceCall.initial calls) pool)
    {number : Option Int}
    (called : .returned number (commands.call (forwardedOptions route requestYaml)) ∈ pool.threads)
    (state : DiagnosticState)
    (counted : (forwardRequest codec conversions (room codec conversions portals delivered) access route request
      state response).state = state.recordSuccess) :
    ∃ answer ∈ pool.shared.sent, number = some answer.sequenceNumber ∧ ∃ output,
      toYaml (route.msgType ++ ascii "_Response") answer.content = .ok (some output) ∧
        access.populateMessageFromYaml (route.msgType ++ ascii "_Response") output response =
          ((forwardRequest codec conversions (room codec conversions portals delivered) access route request
            state response).response, .ok true) := by
  rw [forwardRequest_room narrows written found sendable asks answers state] at counted ⊢
  obtain ⟨remote, returned, succeeded, populated⟩ := succeeded_of_settle counted
  have ran : commands.call (forwardedOptions route requestYaml) = .ok remote := by
    split at returned
    · cases outcome : commands.call (forwardedOptions route requestYaml) with
      | error => rw [outcome] at returned; cases returned
      | ok answer =>
          rw [outcome] at returned
          cases returned
          rfl
    · cases returned
  rw [ran] at called
  obtain ⟨answer, sent, own, converted⟩ :=
    ((ServiceCall.invariant_of_reaches reached).sound _ called).answered remote rfl succeeded
  refine ⟨answer, sent, own, remote.output, ?_, populated⟩
  rw [← converted] at succeeded ⊢
  exact ServiceCall.convertResponse_success succeeded

def setBoolRoute : ServiceRoute := ⟨ascii "/set_bool", ascii "std_srvs/srv/SetBool", ascii "robot"⟩

def plainAccess : MessageAccess Bytes where
  toYaml _ message := .ok (some message)
  populateMessageFromYaml _ yaml _ := (yaml, .ok true)

def settingCodec : Codec := flatCodec [setBoolMembers "data: true", listedMembers "success: true"]

theorem settingCodec_writesBack :
    settingCodec.WritesBack (forwardedJson setBoolRoute (ascii "data: true")) ∧
      settingCodec.WritesBack (listed (ascii "success: true")).toJson := by
  have differ : objectText (setBoolMembers "data: true") ≠ objectText (listedMembers "success: true") := by
    decide +kernel
  constructor
  · apply flatCodec_writesBack List.mem_cons_self
    intro other known same
    simp only [List.mem_cons, List.not_mem_nil, or_false] at known
    rcases known with rfl | rfl
    · rfl
    · exact absurd same.symm differ
  · apply flatCodec_writesBack (List.mem_cons_of_mem _ List.mem_cons_self)
    intro other known same
    simp only [List.mem_cons, List.not_mem_nil, or_false] at known
    rcases known with rfl | rfl
    · exact absurd same differ
    · rfl

def setter : LocalCommands := { talker with call := fun _ => .ok (listed (ascii "success: true")) }

/-- The service answers the call made for the local caller. -/
theorem set_bool_forwarded :
    ∃ pool : Pool (ServiceCall.Shared Bytes) (ServiceCall.Control Bytes),
      ∃ answer ∈ pool.shared.sent, some 1 = some answer.sequenceNumber ∧ ∃ output,
        plainAccess.toYaml (setBoolRoute.msgType ++ ascii "_Response") answer.content = .ok (some output) ∧
          plainAccess.populateMessageFromYaml (setBoolRoute.msgType ++ ascii "_Response") output [] =
            ((forwardRequest settingCodec narrowingConversions
              (room settingCodec narrowingConversions (onlyPortal setter) everyRpc) plainAccess setBoolRoute
              (ascii "data: true") {} []).response, .ok true) := by
  let ready : ServiceCall.Preparation := ⟨.ok (ascii "/set_bool"), .ok (), .ok ()⟩
  obtain ⟨pool, reached, called⟩ := Machine.Reaches.exists_of_exec
    (ServiceCall.program setBoolRoute.msgType plainAccess.toYaml).machine
    (ServiceCall.initial [forwardedOptions setBoolRoute (ascii "data: true")])
    [(1, .prepare ready), (1, .lock), (1, .send (.ok 1)), (0, .deliver ⟨1, ascii "success: true"⟩),
      (1, .checkDeadline), (1, .take), (1, .unlock)]
    (fun pool => (pool.threads.any fun
      | .returned number (.ok response) => decide (number = some 1 ∧ response = listed (ascii "success: true"))
      | .returned _ (.error _) => false
      | _ => false) = true) (by decide +kernel)
  have returned : .returned (some 1) (setter.call (forwardedOptions setBoolRoute (ascii "data: true"))) ∈
      pool.threads := by
    obtain ⟨control, member, same⟩ := List.any_eq_true.mp called
    split at same
    next number response =>
      obtain ⟨rfl, rfl⟩ := of_decide_eq_true same
      exact member
    next => cases same
    next => cases same
  have answers : ∀ answer, setter.call (forwardedOptions setBoolRoute (ascii "data: true")) = .ok answer →
      Tellable settingCodec answer := by
    rintro answer ⟨⟩
    exact ⟨⟨by decide +kernel, by decide +kernel⟩, settingCodec_writesBack.2⟩
  have written : plainAccess.toYaml (setBoolRoute.msgType ++ ascii "_Request") (ascii "data: true") =
      .ok (some (ascii "data: true")) := rfl
  have found : onlyPortal setter setBoolRoute.participant = some setter := rfl
  have sendable : Sendable setBoolRoute.service setBoolRoute.msgType (ascii "data: true") := by decide +kernel
  have counted : (forwardRequest settingCodec narrowingConversions
      (room settingCodec narrowingConversions (onlyPortal setter) everyRpc) plainAccess setBoolRoute
      (ascii "data: true") {} []).state = DiagnosticState.recordSuccess {} := by
    rw [forwardRequest_room narrowingConversions_narrows written found sendable settingCodec_writesBack.1 answers]
    rfl
  exact ⟨pool, forwarded_response_own narrowingConversions_narrows written found sendable settingCodec_writesBack.1
    answers reached returned {} counted⟩

end Own

end RosPortal.Services
