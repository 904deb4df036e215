import RosPortal.Cli.Totality

/-! Well-formed requests, and the six inbound handlers: each answers exactly when it
has no byte string to quote that is not UTF-8. -/

set_option autoImplicit false

namespace RosPortal.Cli

open JsonText

section Shapes

/-- The member, where there is one, is of the kind. -/
def OptionalField (kind : Value → Prop) (request : Value) (key : String) : Prop :=
  ∀ member, request.find? (ascii key) = some member → kind member

def IsBoolean (value : Value) : Prop := ∃ boolean, value = .boolean boolean

def IsString (value : Value) : Prop := ∃ text, value = .string text

def RequiredText (request : Value) (key : String) : Prop :=
  ∃ text, request.find? (ascii key) = some (.string text) ∧ rightTrim (leftTrim text) ≠ []

/-- The payload is a JSON object with the given shape. -/
def IsRequest (codec : Codec) (shape : Value → Prop) (payload : Bytes) : Prop :=
  ∃ request, codec.parse payload = .ok request ∧ request.isObject = true ∧ shape request

def topicListShape (request : Value) : Prop :=
  ∀ key ∈ ["show_types", "count_topics", "include_hidden_topics", "verbose"],
    OptionalField IsBoolean request key

def topicPubShape (request : Value) : Prop :=
  ∀ key ∈ ["topic", "msg_type", "payload"], RequiredText request key

def serviceListShape (request : Value) : Prop :=
  ∀ key ∈ ["show_types", "count_services", "include_hidden_services"],
    OptionalField IsBoolean request key

def serviceCallShape (conversions : Conversions) (request : Value) : Prop :=
  (∀ key ∈ ["service", "msg_type", "payload"], RequiredText request key) ∧
    OptionalField (fun value => ∃ timeout, conversions.getInt value = .ok timeout) request "timeout_sec"

def interfaceShowShape (request : Value) : Prop :=
  OptionalField IsString request "type" ∧
    ∀ key ∈ ["all_comments", "no_comments"], OptionalField IsBoolean request key

def latchedStateShape (request : Value) : Prop :=
  ∀ key ∈ ["topic", "msg_type", "data"], ∃ text, request.find? (ascii key) = some (.string text)

end Shapes

section Fields

variable {codec : Codec} {conversions : Conversions}

theorem parse_ok {payload : Bytes} {request : Value} (parsed : parse codec payload = .ok request) :
    codec.parse payload = .ok request := by
  unfold parse at parsed
  split at parsed
  · cases parsed
  next found =>
    cases parsed
    exact found

theorem getBool_ok {value : Value} {boolean : Bool} (converted : getBool conversions value = .ok boolean) :
    IsBoolean value := by
  cases value with
  | boolean value => exact ⟨value, rfl⟩
  | null | integer _ | float _ | string _ | array _ | object _ => cases converted

theorem getString_ok {value : Value} {text : Bytes} (converted : getString conversions value = .ok text) :
    value = .string text := by
  cases value with
  | string value =>
      cases converted
      rfl
  | null | boolean _ | integer _ | float _ | array _ | object _ => cases converted

theorem valueOr_ok {α : Type} {request : Value} {key : String} {get : Value → Except Bytes α}
    {default value : α} (converted : valueOr conversions request key get default = .ok value) :
    request.isObject = true ∧ OptionalField (fun member => ∃ value, get member = .ok value) request key := by
  cases request with
  | object members =>
      refine ⟨rfl, ?_⟩
      intro member found
      change members.lookup (ascii key) = some member at found
      simp only [valueOr, found] at converted
      exact ⟨value, converted⟩
  | null | boolean _ | integer _ | float _ | string _ | array _ => cases converted

theorem boolean_field {request : Value} {key : String} {default value : Bool}
    (converted : valueOr conversions request key (getBool conversions) default = .ok value) :
    OptionalField IsBoolean request key := by
  intro member found
  obtain ⟨_, read⟩ := (valueOr_ok converted).2 member found
  exact getBool_ok read

theorem stringAt_ok {request : Value} {key : String} {text : Bytes}
    (read : stringAt conversions request key = .ok text) :
    request.isObject = true ∧ request.find? (ascii key) = some (.string text) := by
  cases request with
  | object members =>
      refine ⟨rfl, ?_⟩
      cases found : members.lookup (ascii key) with
      | none => simp [stringAt, found] at read
      | some member =>
          simp only [stringAt, found] at read
          rw [← getString_ok read]
          exact found
  | null | boolean _ | integer _ | float _ | string _ | array _ => cases read

theorem requiredStringField_ok {body : Value} {fieldName missingMessage emptyMessage : String}
    {value : Bytes}
    (read : requiredStringField body fieldName missingMessage emptyMessage = .ok value) :
    RequiredText body fieldName := by
  unfold requiredStringField at read
  split at read
  next text found =>
    simp only at read
    split_ifs at read with blank
    exact ⟨text, found, blank⟩
  · cases read

end Fields

section Options

variable {codec : Codec} {conversions : Conversions} {payload : Bytes}

theorem topicListOptions_request {options : TopicListOptions}
    (read : topicListOptionsFromJson codec conversions payload = .ok options) :
    IsRequest codec topicListShape payload := by
  obtain ⟨request, parsed, read⟩ := bind_ok read
  obtain ⟨_, showTypes, read⟩ := bind_ok read
  obtain ⟨_, countTopics, read⟩ := bind_ok read
  obtain ⟨_, includeHidden, read⟩ := bind_ok read
  obtain ⟨_, verbose, _⟩ := bind_ok read
  refine ⟨request, parse_ok parsed, (valueOr_ok showTypes).1, ?_⟩
  simp only [topicListShape, List.forall_mem_cons]
  exact ⟨boolean_field showTypes, boolean_field countTopics, boolean_field includeHidden,
    boolean_field verbose, by simp⟩

theorem serviceListOptions_request {options : ServiceListOptions}
    (read : serviceListOptionsFromJson codec conversions payload = .ok options) :
    IsRequest codec serviceListShape payload := by
  obtain ⟨request, parsed, read⟩ := bind_ok read
  obtain ⟨_, showTypes, read⟩ := bind_ok read
  obtain ⟨_, countServices, read⟩ := bind_ok read
  obtain ⟨_, includeHidden, _⟩ := bind_ok read
  refine ⟨request, parse_ok parsed, (valueOr_ok showTypes).1, ?_⟩
  simp only [serviceListShape, List.forall_mem_cons]
  exact ⟨boolean_field showTypes, boolean_field countServices, boolean_field includeHidden, by simp⟩

theorem interfaceShowOptions_request {options : InterfaceShowOptions}
    (read : interfaceShowOptionsFromJson codec conversions payload = .ok options) :
    IsRequest codec interfaceShowShape payload := by
  obtain ⟨request, parsed, read⟩ := bind_ok read
  obtain ⟨_, type, read⟩ := bind_ok read
  obtain ⟨_, allComments, read⟩ := bind_ok read
  obtain ⟨_, noComments, _⟩ := bind_ok read
  refine ⟨request, parse_ok parsed, (valueOr_ok type).1, ?_, ?_⟩
  · intro member found
    obtain ⟨text, converted⟩ := (valueOr_ok type).2 member found
    exact ⟨text, getString_ok converted⟩
  · simp only [List.forall_mem_cons]
    exact ⟨boolean_field allComments, boolean_field noComments, by simp⟩

theorem latchedStateRequest_request {request : LatchedStateRequest}
    (read : latchedStateRequestFromJson codec conversions payload = .ok request) :
    IsRequest codec latchedStateShape payload := by
  obtain ⟨parsedRequest, parsed, read⟩ := bind_ok read
  obtain ⟨topic, topicRead, read⟩ := bind_ok read
  obtain ⟨msgType, typeRead, read⟩ := bind_ok read
  obtain ⟨data, dataRead, _⟩ := bind_ok read
  refine ⟨parsedRequest, parse_ok parsed, (stringAt_ok topicRead).1, ?_⟩
  simp only [latchedStateShape, List.forall_mem_cons]
  exact ⟨⟨_, (stringAt_ok topicRead).2⟩, ⟨_, (stringAt_ok typeRead).2⟩, ⟨_, (stringAt_ok dataRead).2⟩,
    by simp⟩

theorem topicPubOptions_request {options : TopicPubOptions}
    (read : topicPubOptionsFromJson codec payload = .ok options) :
    IsRequest codec topicPubShape payload := by
  obtain ⟨request, parsed, read⟩ := bind_ok read
  by_cases object : request.isObject = false
  · rw [if_pos object] at read
    cases read
  · rw [if_neg object] at read
    obtain ⟨_, topic, read⟩ := bind_ok read
    obtain ⟨_, msgType, read⟩ := bind_ok read
    obtain ⟨_, message, _⟩ := bind_ok read
    refine ⟨request, parse_ok parsed, by simpa using object, ?_⟩
    simp only [topicPubShape, List.forall_mem_cons]
    exact ⟨requiredStringField_ok topic, requiredStringField_ok msgType,
      requiredStringField_ok message, by simp⟩

theorem serviceCallOptions_request {options : ServiceCallOptions}
    (read : serviceCallOptionsFromJson codec conversions payload = .ok options) :
    IsRequest codec (serviceCallShape conversions) payload := by
  obtain ⟨request, parsed, read⟩ := bind_ok read
  by_cases object : request.isObject = false
  · rw [if_pos object] at read
    cases read
  · rw [if_neg object] at read
    obtain ⟨_, service, read⟩ := bind_ok read
    obtain ⟨_, msgType, read⟩ := bind_ok read
    obtain ⟨_, message, read⟩ := bind_ok read
    obtain ⟨_, timeout, _⟩ := bind_ok read
    refine ⟨request, parse_ok parsed, by simpa using object, ?_, (valueOr_ok timeout).2⟩
    simp only [List.forall_mem_cons]
    exact ⟨requiredStringField_ok service, requiredStringField_ok msgType,
      requiredStringField_ok message, by simp⟩

end Options

section Reports

/-- The field names the readers quote and the texts of the responses are ASCII. -/
theorem texts_plain :
    ∀ text ∈ ["topic", "msg_type", "data", "Topic pub request must be a JSON object",
      "Service call request must be a JSON object", "topic must be a string",
      "topic must be non-empty", "msg_type must be a string", "msg_type must be non-empty",
      "payload must be a string", "payload must be non-empty", "service must be a string",
      "service must be non-empty", "malformed latched-state request: ", "topic '",
      "' is not a configured inbound latched topic", "invalid base64 payload for '", "'",
      "failed to create publisher for '", "' [", "]: ", "publisher handle invalid for '",
      "failed to publish '", "': "], IsAscii (ascii text) := by
  decide +kernel

variable {codec : Codec} {conversions : Conversions} {payload : Bytes}

theorem reports_topicList (plain : conversions.Plain) :
    Reports codec payload (topicListOptionsFromJson codec conversions payload) := by
  refine reports_of_parse fun request => ?_
  have field := plain_valueOr plain (plain_getBool plain) request
  exact (field _ _).bind fun _ => (field _ _).bind fun _ => (field _ _).bind fun _ =>
    (field _ _).bind fun _ => .ok _

theorem reports_serviceList (plain : conversions.Plain) :
    Reports codec payload (serviceListOptionsFromJson codec conversions payload) := by
  refine reports_of_parse fun request => ?_
  have field := plain_valueOr plain (plain_getBool plain) request
  exact (field _ _).bind fun _ => (field _ _).bind fun _ => (field _ _).bind fun _ => .ok _

theorem reports_interfaceShow (plain : conversions.Plain) :
    Reports codec payload (interfaceShowOptionsFromJson codec conversions payload) := by
  refine reports_of_parse fun request => ?_
  have flag := plain_valueOr plain (plain_getBool plain) request
  have text := plain_valueOr plain (plain_getString plain) request
  exact (text _ _).bind fun _ => (flag _ _).bind fun _ => (flag _ _).bind fun _ => .ok _

theorem reports_latchedState (plain : conversions.Plain) :
    Reports codec payload (latchedStateRequestFromJson codec conversions payload) := by
  refine reports_of_parse fun request => ?_
  have topic := plain_stringAt plain request "topic" (texts_plain _ (by simp))
  have msgType := plain_stringAt plain request "msg_type" (texts_plain _ (by simp))
  have data := plain_stringAt plain request "data" (texts_plain _ (by simp))
  exact topic.bind fun _ => msgType.bind fun _ => data.bind fun _ => .ok _

theorem reports_topicPub : Reports codec payload (topicPubOptionsFromJson codec payload) := by
  refine reports_of_parse fun request => ?_
  by_cases object : request.isObject = false
  · rw [if_pos object]
    exact .error (texts_plain _ (by simp))
  · rw [if_neg object]
    have topic := plain_requiredStringField request "topic" "topic must be a string"
      "topic must be non-empty" (texts_plain _ (by simp)) (texts_plain _ (by simp))
    have msgType := plain_requiredStringField request "msg_type" "msg_type must be a string"
      "msg_type must be non-empty" (texts_plain _ (by simp)) (texts_plain _ (by simp))
    have message := plain_requiredStringField request "payload" "payload must be a string"
      "payload must be non-empty" (texts_plain _ (by simp)) (texts_plain _ (by simp))
    exact topic.bind fun _ => msgType.bind fun _ => message.bind fun _ => .ok _

theorem reports_serviceCall (plain : conversions.Plain) :
    Reports codec payload (serviceCallOptionsFromJson codec conversions payload) := by
  refine reports_of_parse fun request => ?_
  by_cases object : request.isObject = false
  · rw [if_pos object]
    exact .error (texts_plain _ (by simp))
  · rw [if_neg object]
    have service := plain_requiredStringField request "service" "service must be a string"
      "service must be non-empty" (texts_plain _ (by simp)) (texts_plain _ (by simp))
    have msgType := plain_requiredStringField request "msg_type" "msg_type must be a string"
      "msg_type must be non-empty" (texts_plain _ (by simp)) (texts_plain _ (by simp))
    have message := plain_requiredStringField request "payload" "payload must be a string"
      "payload must be non-empty" (texts_plain _ (by simp)) (texts_plain _ (by simp))
    have timeout := plain_valueOr plain (plain_getInt plain) request "timeout_sec" 0
    exact service.bind fun _ => msgType.bind fun _ => message.bind fun _ => timeout.bind fun _ => .ok _

end Reports

section Answers

variable {codec : Codec} {conversions : Conversions} {payload : Bytes}

theorem latchedStateRequest_utf8 (strict : codec.Strict) {request : LatchedStateRequest}
    (read : latchedStateRequestFromJson codec conversions payload = .ok request) :
    validUtf8 request.topic = true ∧ validUtf8 request.msgType = true := by
  obtain ⟨parsedRequest, parsed, read⟩ := bind_ok read
  obtain ⟨topic, topicRead, read⟩ := bind_ok read
  obtain ⟨msgType, typeRead, read⟩ := bind_ok read
  obtain ⟨data, _, read⟩ := bind_ok read
  cases read
  have valid := strict.reads (parse_ok parsed)
  exact ⟨valid.find (stringAt_ok topicRead).2 _ .here, valid.find (stringAt_ok typeRead).2 _ .here⟩

theorem valid_without_exception {errMsg : Bytes} (valid : validUtf8 errMsg = true) :
    (validUtf8 (failure errMsg).errMsg = true ∧ validUtf8 (failure errMsg).output = true) ↔
      ∀ what, (none : Option Bytes) = some what → validUtf8 what = true := by
  refine iff_of_true ⟨valid, rfl⟩ ?_
  intro what impossible
  cases impossible

theorem valid_with_exception {before what : Bytes} (valid : validUtf8 before = true) :
    (validUtf8 (failure (before ++ what)).errMsg = true ∧
      validUtf8 (failure (before ++ what)).output = true) ↔
      ∀ thrown, some what = some thrown → validUtf8 thrown = true := by
  simp only [failure, valid_append valid, Option.some.injEq]
  constructor
  · rintro ⟨whatValid, _⟩ _ rfl
    exact whatValid
  · intro thrown
    exact ⟨thrown what rfl, rfl⟩

/-- The response quotes nothing but the topic and the type, which are UTF-8, and what
ROS threw. -/
theorem latchedResponse_valid_iff {inbound : LatchedInbound} {request : LatchedStateRequest}
    (topic : validUtf8 request.topic = true) (msgType : validUtf8 request.msgType = true) :
    (validUtf8 (latchedResponse inbound request).errMsg = true ∧
      validUtf8 (latchedResponse inbound request).output = true) ↔
      ∀ what, rosException inbound request = some what → validUtf8 what = true := by
  have quotes : ∀ before after : String, IsAscii (ascii before) → IsAscii (ascii after) →
      validUtf8 (ascii before ++ request.topic ++ ascii after) = true := by
    intro before after plainBefore plainAfter
    rw [valid_quoted plainBefore plainAfter]
    exact topic
  unfold latchedResponse rosException
  by_cases configured : request.topic ∈ inbound.inboundTopics
  · rw [if_neg (not_not_intro configured), if_neg (not_not_intro configured)]
    cases inbound.base64Decode request.data with
    | none => exact valid_without_exception (quotes _ _ (texts_plain _ (by simp)) (texts_plain _ (by simp)))
    | some decoded =>
        cases inbound.openPublisher request.topic request.msgType with
        | error what =>
            simp only
            refine valid_with_exception ?_
            rw [valid_append_ascii _ (texts_plain "]: " (by simp)),
              valid_append (quotes _ _ (texts_plain _ (by simp)) (texts_plain _ (by simp)))]
            exact msgType
        | ok usable =>
            cases usable with
            | false =>
                simp only
                exact valid_without_exception (quotes _ _ (texts_plain _ (by simp)) (texts_plain _ (by simp)))
            | true =>
                cases published : inbound.publish request.topic decoded with
                | error what =>
                    simp only [published]
                    exact valid_with_exception (quotes _ _ (texts_plain _ (by simp)) (texts_plain _ (by simp)))
                | ok done =>
                    simp only [published]
                    refine iff_of_true ⟨rfl, rfl⟩ ?_
                    intro what impossible
                    cases impossible
  · rw [if_pos configured, if_pos configured]
    exact valid_without_exception (quotes _ _ (texts_plain _ (by simp)) (texts_plain _ (by simp)))

theorem handleServiceCallRpc_responds_iff (strict : codec.Strict) (plain : conversions.Plain)
    (commands : LocalCommands) :
    Responds codec (¬ IsRequest codec (serviceCallShape conversions) payload)
        (handleServiceCallRpc codec conversions commands payload).text ↔
      StopsBetweenCharacters codec payload ∧
        ∀ options, serviceCallOptionsFromJson codec conversions payload = .ok options →
          ∃ response, commands.call options = .ok response ∧
            validUtf8 response.errMsg = true ∧ validUtf8 response.output = true := by
  have reports : Reports codec payload (serviceCallOptionsFromJson codec conversions payload) :=
    reports_serviceCall plain
  unfold handleServiceCallRpc
  cases read : serviceCallOptionsFromJson codec conversions payload with
  | error what =>
      simp only [text_reportFailure, responds_failure_iff strict, rejected_valid_iff strict reports read, reduceCtorEq,
        false_implies, implies_true, and_true]
  | ok options =>
      have stops := stops_of_accepted reports read
      have wellFormed := not_not_intro (serviceCallOptions_request read)
      simp only [stops, true_and, Except.ok.injEq, forall_eq']
      cases ran : commands.call options with
      | error what =>
          refine iff_of_false ?_ ?_
          · rintro ⟨_, _, returned, _⟩
            cases returned
          · rintro ⟨_, returned, _⟩
            cases returned
      | ok response =>
          simp only [text_makeInboundRpcResponse, responds_iff strict wellFormed, Except.ok.injEq, exists_eq_left']

theorem handleLatchedStateRpc_responds_iff (strict : codec.Strict) (plain : conversions.Plain)
    (inbound : LatchedInbound) :
    Responds codec (¬ IsRequest codec latchedStateShape payload)
        (handleLatchedStateRpc codec conversions inbound payload) ↔
      StopsBetweenCharacters codec payload ∧
        ∀ request what, latchedStateRequestFromJson codec conversions payload = .ok request →
          rosException inbound request = some what → validUtf8 what = true := by
  have reports : Reports codec payload (latchedStateRequestFromJson codec conversions payload) :=
    reports_latchedState plain
  unfold handleLatchedStateRpc
  cases read : latchedStateRequestFromJson codec conversions payload with
  | error what =>
      have quoted : validUtf8 (ascii "malformed latched-state request: " ++ what) = validUtf8 what :=
        valid_append (valid_ascii (texts_plain _ (by simp))) what
      simp only [responds_failure_iff strict, quoted, rejected_valid_iff strict reports read, reduceCtorEq,
        false_implies, implies_true, and_true]
  | ok request =>
      have stops := stops_of_accepted reports read
      have wellFormed := not_not_intro (latchedStateRequest_request read)
      obtain ⟨topic, msgType⟩ := latchedStateRequest_utf8 strict read
      rw [responds_iff strict wellFormed, latchedResponse_valid_iff topic msgType]
      simp only [stops, true_and, Except.ok.injEq]
      constructor
      · rintro thrown _ what rfl
        exact thrown what
      · intro thrown what
        exact thrown request what rfl

/-- Every inbound handler answers, and reports failure for a malformed request, exactly
when the parser does not stop inside a character of the payload and nothing it quotes
afterwards is other than UTF-8. -/
theorem inbound_handlers_respond_iff (strict : codec.Strict) (plain : conversions.Plain)
    (commands : LocalCommands) (inbound : LatchedInbound) (payload : Bytes) :
    (Responds codec (¬ IsRequest codec topicListShape payload)
        (handleTopicListRpc codec conversions commands payload).text ↔
      StopsBetweenCharacters codec payload ∧ ∀ options what,
        topicListOptionsFromJson codec conversions payload = .ok options →
        commands.listTopics options = .error what → validUtf8 what = true) ∧
    (Responds codec (¬ IsRequest codec topicPubShape payload)
        (handleTopicPubRpc codec commands payload).text ↔
      StopsBetweenCharacters codec payload ∧ ∀ options what,
        topicPubOptionsFromJson codec payload = .ok options →
        commands.publish options = .error what → validUtf8 what = true) ∧
    (Responds codec (¬ IsRequest codec serviceListShape payload)
        (handleServiceListRpc codec conversions commands payload).text ↔
      StopsBetweenCharacters codec payload ∧ ∀ options what,
        serviceListOptionsFromJson codec conversions payload = .ok options →
        commands.listServices options = .error what → validUtf8 what = true) ∧
    (Responds codec (¬ IsRequest codec (serviceCallShape conversions) payload)
        (handleServiceCallRpc codec conversions commands payload).text ↔
      StopsBetweenCharacters codec payload ∧ ∀ options,
        serviceCallOptionsFromJson codec conversions payload = .ok options →
        ∃ response, commands.call options = .ok response ∧
          validUtf8 response.errMsg = true ∧ validUtf8 response.output = true) ∧
    (Responds codec (¬ IsRequest codec interfaceShowShape payload)
        (handleInterfaceShowRpc codec conversions commands payload).text ↔
      StopsBetweenCharacters codec payload ∧ ∀ options what,
        interfaceShowOptionsFromJson codec conversions payload = .ok options →
        commands.renderInterfaceDefinition options = .error what → validUtf8 what = true) ∧
    (Responds codec (¬ IsRequest codec latchedStateShape payload)
        (handleLatchedStateRpc codec conversions inbound payload) ↔
      StopsBetweenCharacters codec payload ∧ ∀ request what,
        latchedStateRequestFromJson codec conversions payload = .ok request →
        rosException inbound request = some what → validUtf8 what = true) := by
  refine ⟨?_, ?_, ?_, handleServiceCallRpc_responds_iff strict plain commands, ?_,
    handleLatchedStateRpc_responds_iff strict plain inbound⟩
  · exact handleGuarded_map_responds_iff strict (reports_topicList plain)
      fun _ read => not_not_intro (topicListOptions_request read)
  · exact handleGuarded_responds_iff strict reports_topicPub
      fun _ read => not_not_intro (topicPubOptions_request read)
  · exact handleGuarded_map_responds_iff strict (reports_serviceList plain)
      fun _ read => not_not_intro (serviceListOptions_request read)
  · exact handleGuarded_map_responds_iff strict (reports_interfaceShow plain)
      fun _ read => not_not_intro (interfaceShowOptions_request read)

end Answers

section Payloads

/-! A library that stops at the first octet of the payload, as a JSON parser does where
no value begins with it. -/

def responseText (errMsg output : Bytes) : Bytes :=
  ascii "\x7b\"err_msg\":\"" ++ errMsg ++ ascii "\",\"output\":\"" ++ output ++
    ascii "\",\"success\":false\x7d"

def stopMessage : Bytes :=
  ascii "[json.exception.parse_error.101] parse error at line 1, column 1: " ++
    ascii "syntax error while parsing value - invalid literal; last read: '"

theorem stopMessage_plain : IsAscii stopMessage := by decide +kernel

def stoppingCodec : Codec where
  parse payload := .error ⟨stopMessage, payload.take 1, ascii "'"⟩
  dump value :=
    if value.Utf8 then
      match value with
      | .object [(_, .string errMsg), (_, .string output), _] => .ok (responseText errMsg output)
      | _ => .ok []
    else .error (ascii "[json.exception.type_error.316] invalid UTF-8 byte")

theorem stoppingCodec_strict : stoppingCodec.Strict := by
  constructor
  · intro payload value parsed
    cases parsed
  · intro payload error failed
    simp only [stoppingCodec, Except.error.injEq] at failed
    subst failed
    dsimp only
    exact ⟨stopMessage_plain, by decide +kernel⟩
  · intro value valid
    simp only [stoppingCodec, if_pos valid]
    split
    · exact ⟨_, rfl⟩
    · exact ⟨_, rfl⟩
  · intro value invalid
    simp only [stoppingCodec, if_neg invalid]
    exact ⟨_, rfl, by decide +kernel⟩

def plainConversions : Conversions where
  typeError _ := ascii "[json.exception.type_error.302] type must be boolean"
  missingKey key := ascii "[json.exception.out_of_range.403] key '" ++ key ++ ascii "' not found"
  getInt _ := .error (ascii "[json.exception.type_error.302] type must be number")

theorem plainConversions_plain : plainConversions.Plain := by
  have boolean : IsAscii (ascii "[json.exception.type_error.302] type must be boolean") := by
    decide +kernel
  have key : IsAscii (ascii "[json.exception.out_of_range.403] key '") := by decide +kernel
  refine ⟨fun _ => boolean, fun name plain => (key.append plain).append (by decide +kernel), ?_⟩
  intro value what failed
  cases failed
  decide +kernel

def idleCommands : LocalCommands where
  listTopics _ := .ok []
  publish _ := .ok ⟨true, [], []⟩
  listServices _ := .ok []
  call _ := .ok ⟨true, [], []⟩
  renderInterfaceDefinition _ := .ok none

def noInbound : LatchedInbound := ⟨[], fun _ => none, fun _ _ => .ok true, fun _ _ => .ok ()⟩

/-- A payload of one ASCII letter is malformed, and each handler says so. -/
theorem inbound_handlers_respond_to_letter :
    Responds stoppingCodec (¬ IsRequest stoppingCodec topicListShape (ascii "x"))
        (handleTopicListRpc stoppingCodec plainConversions idleCommands (ascii "x")).text ∧
      Responds stoppingCodec (¬ IsRequest stoppingCodec latchedStateShape (ascii "x"))
        (handleLatchedStateRpc stoppingCodec plainConversions noInbound (ascii "x")) := by
  have answers := inbound_handlers_respond_iff stoppingCodec_strict plainConversions_plain idleCommands
    noInbound (ascii "x")
  have stops : StopsBetweenCharacters stoppingCodec (ascii "x") := by
    intro error failed
    simp only [stoppingCodec, Except.error.injEq] at failed
    subst failed
    exact (by decide : validUtf8 ((ascii "x").take 1) = true)
  constructor
  · refine answers.1.mpr ⟨stops, ?_⟩
    intro options what read
    cases read
  · refine answers.2.2.2.2.2.mpr ⟨stops, ?_⟩
    intro request what read
    cases read

theorem not_dumped_of_invalid {errMsg : Bytes} (invalid : validUtf8 errMsg = false) :
    cliResponseToJson stoppingCodec (failure errMsg) =
      .error (ascii "[json.exception.type_error.316] invalid UTF-8 byte") := by
  have refused : ¬ (failure errMsg).toJson.Utf8 := by
    rw [toJson_utf8_iff]
    intro valid
    rw [failure, invalid] at valid
    cases valid.1
  simp only [cliResponseToJson, stoppingCodec, if_neg refused]

/-- A payload of one letter of two octets makes every handler throw. -/
theorem inbound_handlers_throw :
    validUtf8 [0xC3, 0xA9] = true ∧
      (∃ what, (handleTopicListRpc stoppingCodec plainConversions idleCommands [0xC3, 0xA9]).text =
        .error what) ∧
      (∃ what, (handleTopicPubRpc stoppingCodec idleCommands [0xC3, 0xA9]).text = .error what) ∧
      (∃ what, (handleServiceListRpc stoppingCodec plainConversions idleCommands [0xC3, 0xA9]).text =
        .error what) ∧
      (∃ what, (handleServiceCallRpc stoppingCodec plainConversions idleCommands [0xC3, 0xA9]).text =
        .error what) ∧
      (∃ what, (handleInterfaceShowRpc stoppingCodec plainConversions idleCommands [0xC3, 0xA9]).text =
        .error what) ∧
      (∃ what, handleLatchedStateRpc stoppingCodec plainConversions noInbound [0xC3, 0xA9] =
        .error what) := by
  -- the parser quotes the first octet of the letter
  have cut : validUtf8 (stopMessage ++ ([0xC3, 0xA9] : Bytes).take 1 ++ ascii "'") = false := by
    rw [List.append_assoc, valid_append (valid_ascii stopMessage_plain)]
    decide +kernel
  have malformed := texts_plain "malformed latched-state request: " (by simp)
  refine ⟨by decide, ?_, ?_, ?_, ?_, ?_, ?_⟩
  · exact ⟨_, (text_reportFailure _).trans (not_dumped_of_invalid cut)⟩
  · exact ⟨_, (text_reportFailure _).trans (not_dumped_of_invalid cut)⟩
  · exact ⟨_, (text_reportFailure _).trans (not_dumped_of_invalid cut)⟩
  · exact ⟨_, (text_reportFailure _).trans (not_dumped_of_invalid cut)⟩
  · exact ⟨_, (text_reportFailure _).trans (not_dumped_of_invalid cut)⟩
  · have prefixed := (valid_append (valid_ascii malformed) _).trans cut
    exact ⟨_, not_dumped_of_invalid prefixed⟩

end Payloads

end RosPortal.Cli
