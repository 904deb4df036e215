import RosPortal.Cli.Manager

/-! A command that one portal is asked for and another one runs: the request as JSON, the RPC, the
handler of the other portal, and the response on its way back. -/

set_option autoImplicit false

namespace RosPortal.Cli

open JsonText Manager

/-- The RPC methods that a portal registers; another one is an error of the library. -/
def answerRpc (codec : Codec) (conversions : Conversions) (commands : LocalCommands) (rpcMethod payload : Bytes) :
    Except Bytes Bytes :=
  if rpcMethod = ascii "ros2_topic_list" then (handleTopicListRpc codec conversions commands payload).text
  else if rpcMethod = ascii "ros2_topic_pub" then (handleTopicPubRpc codec commands payload).text
  else if rpcMethod = ascii "ros2_service_list" then (handleServiceListRpc codec conversions commands payload).text
  else if rpcMethod = ascii "ros2_service_call" then (handleServiceCallRpc codec conversions commands payload).text
  else if rpcMethod = ascii "ros2_interface_show" then
    (handleInterfaceShowRpc codec conversions commands payload).text
  else .error (ascii "unsupported method")

/-- A room with other portals in it. An RPC is delivered or not, and one whose handler throws
fails. -/
def room (codec : Codec) (conversions : Conversions) (portals : Bytes → Option LocalCommands)
    (delivered : Bytes → Bytes → Bool) : LiveKitMethods where
  isRoomAvailable := .ok true
  hasParticipant identity := .ok (portals identity).isSome
  performRpc identity rpcMethod payload _ :=
    .ok (if delivered identity rpcMethod then
      (portals identity).bind fun commands => (answerRpc codec conversions commands rpcMethod payload).toOption
    else none)

def answered : Except Bytes CliResponse → CliResponse
  | .ok response => response
  | .error what => failure what

namespace Command

def participantId : Command → Bytes
  | .topicList request => request.participantId
  | .topicPub request => request.participantId
  | .serviceList request => request.participantId
  | .serviceCall request => request.participantId
  | .interfaceShow request => request.participantId

def rpcMethod : Command → String
  | .topicList _ => "ros2_topic_list"
  | .topicPub _ => "ros2_topic_pub"
  | .serviceList _ => "ros2_service_list"
  | .serviceCall _ => "ros2_service_call"
  | .interfaceShow _ => "ros2_interface_show"

/-- The command as the other portal runs it for itself, with the payload trimmed and a timeout that
is not given set to the default. -/
def run (commands : LocalCommands) : Command → Except Bytes CliResponse
  | .topicList request => (commands.listTopics (topicListOptionsFromRequest request)).map listed
  | .topicPub request =>
      commands.publish ⟨request.topic, request.msgType, rightTrim (leftTrim request.payload)⟩
  | .serviceList request => (commands.listServices (serviceListOptionsFromRequest request)).map listed
  | .serviceCall request =>
      commands.call ⟨request.service, request.msgType, rightTrim (leftTrim request.payload),
        effectiveTimeout request.timeoutSec⟩
  | .interfaceShow request =>
      (commands.renderInterfaceDefinition (interfaceShowOptionsFromRequest request)).map
        (showInterface (interfaceShowOptionsFromRequest request))

/-- What the handler makes of it: all but that of a service call answer an exception. -/
def answer (commands : LocalCommands) (command : Command) : Option CliResponse :=
  match command with
  | .serviceCall _ => (command.run commands).toOption
  | _ => some (answered (command.run commands))

def requestJson : Command → Value
  | .topicList request => topicListRequestJson request (effectiveTimeout request.timeoutSec)
  | .topicPub request => topicPubRequestJson request (effectiveTimeout request.timeoutSec)
  | .serviceList request => serviceListRequestJson request (effectiveTimeout request.timeoutSec)
  | .serviceCall request => serviceCallRequestJson request (effectiveTimeout request.timeoutSec)
  | .interfaceShow request => interfaceShowRequestJson request (effectiveTimeout request.timeoutSec)

/-- A request that the other portal reads as it was sent, but for the trimmed payload: its text is UTF-8,
its names have no space around them, no text is blank, and its flags do not exclude each other. -/
def Proper : Command → Prop
  | .topicList _ | .serviceList _ => True
  | .topicPub request => Sendable request.topic request.msgType request.payload
  | .serviceCall request => Sendable request.service request.msgType request.payload
  | .interfaceShow request => validUtf8 request.type = true ∧ (request.allComments && request.noComments) = false

end Command

def CliResponse.Utf8 (response : CliResponse) : Prop :=
  validUtf8 response.errMsg = true ∧ validUtf8 response.output = true

section Dumping

variable {codec : Codec}

theorem parse_of_codec {text : Bytes} {value : Value} (parsed : codec.parse text = .ok value) :
    parse codec text = .ok value := by
  simp [parse, parsed]

theorem response_writesBack {response : CliResponse} (tells : codec.WritesBack response.toJson)
    (utf8 : response.Utf8) :
    ∃ text, codec.dump response.toJson = .ok text ∧ codec.parse text = .ok response.toJson := by
  have ordered : ([ascii "err_msg", ascii "output", ascii "success"]).Pairwise (· < ·) := by decide +kernel
  apply writesBack_members tells ordered
  simp only [List.forall_mem_cons, FlatMember]
  exact ⟨⟨by decide, utf8.1⟩, ⟨by decide, utf8.2⟩, ⟨by decide, trivial⟩, by simp⟩

variable (conversions : Conversions)

theorem topicList_arrives {request : TopicListRequest} {timeoutSec : UInt8}
    (asks : codec.WritesBack (topicListRequestJson request timeoutSec)) (utf8 : validUtf8 request.participantId = true) :
    Arrives (topicListOptionsFromJson codec conversions) (topicListRequestToJson codec request timeoutSec)
      (topicListOptionsFromRequest request) := by
  have ordered : ([ascii "count_topics", ascii "include_hidden_topics", ascii "participant_id",
      ascii "show_types", ascii "timeout_sec", ascii "verbose"]).Pairwise (· < ·) := by decide +kernel
  obtain ⟨text, dumped, parsed⟩ := writesBack_members asks ordered (by
      simp only [List.forall_mem_cons, FlatMember]
      exact ⟨⟨by decide, trivial⟩, ⟨by decide, trivial⟩, ⟨by decide, utf8⟩, ⟨by decide, trivial⟩,
        ⟨by decide, small_timeout timeoutSec⟩, ⟨by decide, trivial⟩, by simp⟩)
  have read := parse_of_codec parsed
  refine ⟨text, dumped, ?_⟩
  rw [topicListOptionsFromJson, read]
  rfl

theorem serviceList_arrives {request : ServiceListRequest} {timeoutSec : UInt8}
    (asks : codec.WritesBack (serviceListRequestJson request timeoutSec)) (utf8 : validUtf8 request.participantId = true) :
    Arrives (serviceListOptionsFromJson codec conversions) (serviceListRequestToJson codec request timeoutSec)
      (serviceListOptionsFromRequest request) := by
  have ordered : ([ascii "count_services", ascii "include_hidden_services", ascii "participant_id",
      ascii "show_types", ascii "timeout_sec"]).Pairwise (· < ·) := by decide +kernel
  obtain ⟨text, dumped, parsed⟩ := writesBack_members asks ordered (by
      simp only [List.forall_mem_cons, FlatMember]
      exact ⟨⟨by decide, trivial⟩, ⟨by decide, trivial⟩, ⟨by decide, utf8⟩, ⟨by decide, trivial⟩,
        ⟨by decide, small_timeout timeoutSec⟩, by simp⟩)
  have read := parse_of_codec parsed
  refine ⟨text, dumped, ?_⟩
  rw [serviceListOptionsFromJson, read]
  rfl

theorem interfaceShow_arrives {request : InterfaceShowRequest} {timeoutSec : UInt8}
    (asks : codec.WritesBack (interfaceShowRequestJson request timeoutSec))
    (utf8 : validUtf8 request.participantId = true) (type : validUtf8 request.type = true) :
    Arrives (interfaceShowOptionsFromJson codec conversions)
      (interfaceShowRequestToJson codec request timeoutSec) (interfaceShowOptionsFromRequest request) := by
  have ordered : ([ascii "all_comments", ascii "no_comments", ascii "participant_id", ascii "timeout_sec",
      ascii "type"]).Pairwise (· < ·) := by decide +kernel
  obtain ⟨text, dumped, parsed⟩ := writesBack_members asks ordered (by
      simp only [List.forall_mem_cons, FlatMember]
      exact ⟨⟨by decide, trivial⟩, ⟨by decide, trivial⟩, ⟨by decide, utf8⟩,
        ⟨by decide, small_timeout timeoutSec⟩, ⟨by decide, type⟩, by simp⟩)
  have read := parse_of_codec parsed
  refine ⟨text, dumped, ?_⟩
  rw [interfaceShowOptionsFromJson, read]
  rfl

end Dumping

/-- What comes back of a handler: the JSON of its answer, or nothing if it threw. -/
inductive AnsweredBy (codec : Codec) : Except Bytes Bytes → Option CliResponse → Prop where
  | returned {reply : Bytes} {response : CliResponse} :
      codec.parse reply = .ok response.toJson → AnsweredBy codec (.ok reply) (some response)
  | threw {what : Bytes} : AnsweredBy codec (.error what) none

def remoteFailure (rpcMethod : String) : CliResponse :=
  failure (ascii "remote " ++ ascii rpcMethod ++ ascii " RPC failed")

/-- A response that is text and comes back from its JSON. -/
def Tellable (codec : Codec) (response : CliResponse) : Prop :=
  response.Utf8 ∧ codec.WritesBack response.toJson

section Answering

variable {codec : Codec} {conversions : Conversions} {commands : LocalCommands}

/-- A handler that read the options answers with the JSON of what its command returned, or with the
exception that it threw. -/
theorem handleGuarded_answers {Options : Type} {options : Options} {command : Options → Except Bytes CliResponse}
    (tells : codec.WritesBack (answered (command options)).toJson) (utf8 : (answered (command options)).Utf8) :
    AnsweredBy codec (handleGuarded codec (.ok options) command).text (some (answered (command options))) := by
  obtain ⟨text, dumped, parsed⟩ := response_writesBack tells utf8
  have replied : (handleGuarded codec (.ok options) command).text = .ok text := by
    simp only [handleGuarded]
    cases ran : command options with
    | ok returned =>
        rw [ran] at dumped
        exact text_catching_of_ok ((text_makeInboundRpcResponse returned).trans dumped)
    | error what =>
        rw [ran] at dumped
        exact (text_catching_of_error (text_thrown what)).trans ((text_reportFailure what).trans dumped)
  rw [replied]
  exact .returned parsed

/-- The handler of a service call does not answer an exception. -/
theorem handleServiceCallRpc_answers {payload : Bytes} {options : ServiceCallOptions}
    (read : serviceCallOptionsFromJson codec conversions payload = .ok options)
    (answers : ∀ answer, commands.call options = .ok answer → Tellable codec answer) :
    AnsweredBy codec (handleServiceCallRpc codec conversions commands payload).text
      (commands.call options).toOption := by
  simp only [handleServiceCallRpc, read]
  cases ran : commands.call options with
  | error what => exact .threw
  | ok answer =>
      obtain ⟨utf8, tells⟩ := answers answer ran
      obtain ⟨reply, dumped, parsed⟩ := response_writesBack tells utf8
      have returned := (text_makeInboundRpcResponse answer).trans dumped
      simp only [returned]
      exact .returned parsed

variable {portals : Bytes → Option LocalCommands} {delivered : Bytes → Bytes → Bool} {identity : Bytes}

theorem sendRequest_room (found : portals identity = some commands) {rpcMethod : String} {payload : Bytes}
    {timeoutSec : UInt8} {answer : Option CliResponse}
    (answers : AnsweredBy codec (answerRpc codec conversions commands (ascii rpcMethod) payload) answer) :
    sendRequest codec conversions (room codec conversions portals delivered) identity rpcMethod timeoutSec payload =
      recordRemoteResult
        ((if delivered identity (ascii rpcMethod) then answer else none).getD (remoteFailure rpcMethod)) := by
  simp only [sendRequest, performRemoteRpc, room, found, Option.bind_some]
  cases delivered identity (ascii rpcMethod) with
  | false => rfl
  | true =>
      generalize answerRpc codec conversions commands (ascii rpcMethod) payload = replied at answers
      cases answers with
      | threw => rfl
      | returned parsed =>
          simp only [if_true, Except.toOption, bind, Except.bind, cliResponseFromJson_of_parse parsed]
          rfl

theorem whenReachable_room (found : portals identity = some commands) (send : Outcome CliResponse) :
    whenReachable (room codec conversions portals delivered) identity send = send := by
  simp [whenReachable, room, found]

end Answering

section Transparency

variable {codec : Codec} {conversions : Conversions} {commands : LocalCommands}
  {portals : Bytes → Option LocalCommands} {delivered : Bytes → Bytes → Bool}

/-- What the caller of the command returns when the other portal gives this answer. -/
def Command.Returns (codec : Codec) (conversions : Conversions) (portals : Bytes → Option LocalCommands)
    (delivered : Bytes → Bytes → Bool) (command : Command) (answer : Option CliResponse) : Prop :=
  callRemote codec conversions (room codec conversions portals delivered) command =
    recordRemoteResult ((if delivered command.participantId (ascii command.rpcMethod) then answer else none).getD
      (remoteFailure command.rpcMethod))

theorem topicList_returns {request : TopicListRequest}
    (asks : codec.WritesBack (topicListRequestJson request (effectiveTimeout request.timeoutSec)))
    (found : portals request.participantId = some commands) (named : request.participantId ≠ [])
    (utf8 : validUtf8 request.participantId = true)
    (answer : Tellable codec (answered ((Command.topicList request).run commands))) :
    (Command.topicList request).Returns codec conversions portals delivered
      ((Command.topicList request).answer commands) := by
  obtain ⟨text, dumped, read⟩ := topicList_arrives conversions asks utf8
  simp only [Command.Returns, callRemote, callRemoteTopicList, if_neg named, whenReachable_room found,
    dumped, withPayload]
  apply sendRequest_room found
  rw [answerRpc, if_pos rfl, handleTopicListRpc, read]
  exact handleGuarded_answers answer.2 answer.1

theorem topicPub_returns {request : TopicPubRequest}
    (asks : codec.WritesBack (topicPubRequestJson request (effectiveTimeout request.timeoutSec)))
    (found : portals request.participantId = some commands) (named : request.participantId ≠ [])
    (sendable : Sendable request.topic request.msgType request.payload)
    (answer : Tellable codec (answered ((Command.topicPub request).run commands))) :
    (Command.topicPub request).Returns codec conversions portals delivered
      ((Command.topicPub request).answer commands) := by
  obtain ⟨text, dumped, read⟩ := topicPub_arrives asks sendable
  simp only [Command.Returns, callRemote, callRemoteTopicPub, if_neg named, whenReachable_room found,
    dumped, withPayload, read]
  apply sendRequest_room found
  rw [answerRpc, if_neg (by decide), if_pos rfl, handleTopicPubRpc, read]
  exact handleGuarded_answers answer.2 answer.1

theorem serviceList_returns {request : ServiceListRequest}
    (asks : codec.WritesBack (serviceListRequestJson request (effectiveTimeout request.timeoutSec)))
    (found : portals request.participantId = some commands) (named : request.participantId ≠ [])
    (utf8 : validUtf8 request.participantId = true)
    (answer : Tellable codec (answered ((Command.serviceList request).run commands))) :
    (Command.serviceList request).Returns codec conversions portals delivered
      ((Command.serviceList request).answer commands) := by
  obtain ⟨text, dumped, read⟩ := serviceList_arrives conversions asks utf8
  simp only [Command.Returns, callRemote, callRemoteServiceList, if_neg named, whenReachable_room found,
    dumped, withPayload]
  apply sendRequest_room found
  rw [answerRpc, if_neg (by decide), if_neg (by decide), if_pos rfl, handleServiceListRpc, read]
  exact handleGuarded_answers answer.2 answer.1

theorem interfaceShow_returns {request : InterfaceShowRequest}
    (asks : codec.WritesBack (interfaceShowRequestJson request (effectiveTimeout request.timeoutSec)))
    (found : portals request.participantId = some commands) (named : request.participantId ≠ [])
    (utf8 : validUtf8 request.participantId = true) (proper : (Command.interfaceShow request).Proper)
    (answer : Tellable codec (answered ((Command.interfaceShow request).run commands))) :
    (Command.interfaceShow request).Returns codec conversions portals delivered
      ((Command.interfaceShow request).answer commands) := by
  obtain ⟨text, dumped, read⟩ := interfaceShow_arrives conversions asks utf8 proper.1
  simp only [Command.Returns, callRemote, callRemoteInterfaceShow, if_neg named, proper.2,
    Bool.false_eq_true, if_false, whenReachable_room found, dumped, withPayload]
  apply sendRequest_room found
  rw [answerRpc, if_neg (by decide), if_neg (by decide), if_neg (by decide), if_neg (by decide), if_pos rfl,
    handleInterfaceShowRpc, read]
  exact handleGuarded_answers answer.2 answer.1

theorem serviceCall_returns (narrows : conversions.Narrows) {request : ServiceCallRequest}
    (asks : codec.WritesBack (serviceCallRequestJson request (effectiveTimeout request.timeoutSec)))
    (found : portals request.participantId = some commands)
    (named : request.participantId ≠ []) (sendable : Sendable request.service request.msgType request.payload)
    (answer : ∀ response, (Command.serviceCall request).run commands = .ok response → Tellable codec response) :
    (Command.serviceCall request).Returns codec conversions portals delivered
      ((Command.serviceCall request).answer commands) := by
  obtain ⟨text, dumped, read⟩ := serviceCall_arrives narrows asks sendable
  have visible := sendable.visible
  simp only [List.forall_mem_cons] at visible
  have filled : ∀ {text : Bytes}, ¬ Blank text → text ≠ [] := by
    rintro text visible rfl
    exact visible nofun
  simp only [Command.Returns, callRemote, callRemoteServiceCall, if_neg named, if_neg (filled visible.1),
    if_neg (filled visible.2.1), if_neg (filled visible.2.2.1), whenReachable_room found, dumped, withPayload]
  apply sendRequest_room found
  rw [answerRpc, if_neg (by decide), if_neg (by decide), if_neg (by decide), if_pos rfl]
  exact handleServiceCallRpc_answers read answer

/-- A proper command asked of another portal, whose answer can be told, returns what that portal would
return for itself, if the RPC is delivered and the command does not throw out of its handler. -/
theorem remote_command_returns (narrows : conversions.Narrows) (command : Command)
    (asks : codec.WritesBack command.requestJson) (found : portals command.participantId = some commands)
    (named : command.participantId ≠ []) (utf8 : validUtf8 command.participantId = true)
    (proper : command.Proper)
    (answers : ∀ response, command.answer commands = some response → Tellable codec response) :
    command.Returns codec conversions portals delivered (command.answer commands) := by
  cases command with
  | topicList request => exact topicList_returns asks found named utf8 (answers _ rfl)
  | topicPub request => exact topicPub_returns asks found named proper (answers _ rfl)
  | serviceList request => exact serviceList_returns asks found named utf8 (answers _ rfl)
  | serviceCall request =>
      refine serviceCall_returns narrows asks found named proper fun response ran => answers response ?_
      rw [Command.answer, ran]
      rfl
  | interfaceShow request => exact interfaceShow_returns asks found named utf8 proper (answers _ rfl)

end Transparency

section Texts

def plainListRequest : TopicListRequest := ⟨ascii "robot", false, false, false, false, 0⟩

def plainListMembers : List (Bytes × Value) :=
  [(ascii "count_topics", .boolean false), (ascii "include_hidden_topics", .boolean false),
    (ascii "participant_id", .string (ascii "robot")), (ascii "show_types", .boolean false),
    (ascii "timeout_sec", .integer 10), (ascii "verbose", .boolean false)]

def listedMembers (output : String) : List (Bytes × Value) :=
  [(ascii "err_msg", .string []), (ascii "output", .string (ascii output)), (ascii "success", .boolean true)]

/-- The texts of one request and of the response to it. -/
def listingCodec : Codec := flatCodec [plainListMembers, listedMembers "/chatter\n"]

theorem listing_texts_differ : objectText plainListMembers ≠ objectText (listedMembers "/chatter\n") := by
  decide +kernel

theorem listingCodec_asks : listingCodec.WritesBack (topicListRequestJson plainListRequest (effectiveTimeout 0)) := by
  apply flatCodec_writesBack List.mem_cons_self
  intro other listed same
  simp only [List.mem_cons, List.not_mem_nil, or_false] at listed
  rcases listed with rfl | rfl
  · rfl
  · exact absurd same.symm listing_texts_differ

theorem listingCodec_tells : listingCodec.WritesBack (listed (ascii "/chatter\n")).toJson := by
  apply flatCodec_writesBack (List.mem_cons_of_mem _ List.mem_cons_self)
  intro other listed same
  simp only [List.mem_cons, List.not_mem_nil, or_false] at listed
  rcases listed with rfl | rfl
  · exact absurd same listing_texts_differ
  · rfl

end Texts

/-- A portal with one topic, to which nothing is published and nothing called. -/
def talker : LocalCommands where
  listTopics _ := .ok (ascii "/chatter\n")
  publish _ := .error (ascii "no publisher")
  listServices _ := .ok []
  call _ := .error (ascii "no client")
  renderInterfaceDefinition _ := .ok none

def onlyPortal (commands : LocalCommands) (identity : Bytes) : Option LocalCommands :=
  if identity = ascii "robot" then some commands else none

def everyRpc (_identity _rpcMethod : Bytes) : Bool := true

/-- A portal's list of topics is what another portal returns for it. -/
theorem talker_listed_remotely :
    (Command.topicList plainListRequest).Returns listingCodec narrowingConversions (onlyPortal talker)
      everyRpc (some (listed (ascii "/chatter\n"))) := by
  have found : onlyPortal talker (Command.topicList plainListRequest).participantId = some talker := rfl
  have answers : ∀ response, (Command.topicList plainListRequest).answer talker = some response →
      Tellable listingCodec response := by
    intro response same
    obtain rfl := Option.some.inj same
    exact ⟨⟨by decide +kernel, by decide +kernel⟩, listingCodec_tells⟩
  exact remote_command_returns narrowingConversions_narrows (.topicList plainListRequest) listingCodec_asks found
    (by decide) (by decide) trivial answers

end RosPortal.Cli
