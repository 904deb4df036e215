import RosPortal.Cli.Requests
import RosPortal.Json.Storable

/-! The JSON that is sent for a request, and what the receiver reads of it. A required
field is trimmed as it is read, the YAML payload included. -/

set_option autoImplicit false

namespace RosPortal.Cli

open JsonText

structure TopicListRequest where
  participantId : Bytes
  showTypes : Bool
  countTopics : Bool
  includeHiddenTopics : Bool
  verbose : Bool
  timeoutSec : UInt8
deriving DecidableEq, Repr

structure TopicPubRequest where
  participantId : Bytes
  topic : Bytes
  msgType : Bytes
  payload : Bytes
  timeoutSec : UInt8
deriving DecidableEq, Repr

structure ServiceListRequest where
  participantId : Bytes
  showTypes : Bool
  countServices : Bool
  includeHiddenServices : Bool
  timeoutSec : UInt8
deriving DecidableEq, Repr

structure ServiceCallRequest where
  participantId : Bytes
  service : Bytes
  msgType : Bytes
  payload : Bytes
  timeoutSec : UInt8
deriving DecidableEq, Repr

structure InterfaceShowRequest where
  participantId : Bytes
  type : Bytes
  allComments : Bool
  noComments : Bool
  timeoutSec : UInt8
deriving DecidableEq, Repr

def topicListOptionsFromRequest (request : TopicListRequest) : TopicListOptions :=
  ⟨request.showTypes, request.countTopics, request.includeHiddenTopics, request.verbose⟩

def topicPubOptionsFromRequest (request : TopicPubRequest) : TopicPubOptions :=
  ⟨request.topic, request.msgType, request.payload⟩

def serviceListOptionsFromRequest (request : ServiceListRequest) : ServiceListOptions :=
  ⟨request.showTypes, request.countServices, request.includeHiddenServices⟩

def serviceCallOptionsFromRequest (request : ServiceCallRequest) : ServiceCallOptions :=
  ⟨request.service, request.msgType, request.payload, request.timeoutSec⟩

def interfaceShowOptionsFromRequest (request : InterfaceShowRequest) : InterfaceShowOptions :=
  ⟨request.type, request.allComments, request.noComments⟩

/-! The objects that are dumped; their members are in key order. -/

def topicListRequestJson (request : TopicListRequest) (timeoutSec : UInt8) : Value :=
  let options := topicListOptionsFromRequest request
  .object [(ascii "count_topics", .boolean options.countTopics),
    (ascii "include_hidden_topics", .boolean options.includeHiddenTopics),
    (ascii "participant_id", .string request.participantId),
    (ascii "show_types", .boolean options.showTypes),
    (ascii "timeout_sec", .integer timeoutSec.toNat),
    (ascii "verbose", .boolean options.verbose)]

def topicPubRequestJson (request : TopicPubRequest) (timeoutSec : UInt8) : Value :=
  let options := topicPubOptionsFromRequest request
  .object [(ascii "msg_type", .string options.msgType), (ascii "payload", .string options.payload),
    (ascii "timeout_sec", .integer timeoutSec.toNat), (ascii "topic", .string options.topic)]

def serviceListRequestJson (request : ServiceListRequest) (timeoutSec : UInt8) : Value :=
  let options := serviceListOptionsFromRequest request
  .object [(ascii "count_services", .boolean options.countServices),
    (ascii "include_hidden_services", .boolean options.includeHiddenServices),
    (ascii "participant_id", .string request.participantId),
    (ascii "show_types", .boolean options.showTypes),
    (ascii "timeout_sec", .integer timeoutSec.toNat)]

def serviceCallRequestJson (request : ServiceCallRequest) (timeoutSec : UInt8) : Value :=
  let options := serviceCallOptionsFromRequest request
  .object [(ascii "msg_type", .string options.msgType), (ascii "payload", .string options.payload),
    (ascii "service", .string options.service), (ascii "timeout_sec", .integer timeoutSec.toNat)]

def interfaceShowRequestJson (request : InterfaceShowRequest) (timeoutSec : UInt8) : Value :=
  let options := interfaceShowOptionsFromRequest request
  .object [(ascii "all_comments", .boolean options.allComments),
    (ascii "no_comments", .boolean options.noComments),
    (ascii "participant_id", .string request.participantId),
    (ascii "timeout_sec", .integer timeoutSec.toNat), (ascii "type", .string options.type)]

section Dumped

variable (codec : Codec)

def topicListRequestToJson (request : TopicListRequest) (timeoutSec : UInt8) : Except Bytes Bytes :=
  codec.dump (topicListRequestJson request timeoutSec)

def topicPubRequestToJson (request : TopicPubRequest) (timeoutSec : UInt8) : Except Bytes Bytes :=
  codec.dump (topicPubRequestJson request timeoutSec)

def serviceListRequestToJson (request : ServiceListRequest) (timeoutSec : UInt8) :
    Except Bytes Bytes :=
  codec.dump (serviceListRequestJson request timeoutSec)

def serviceCallRequestToJson (request : ServiceCallRequest) (timeoutSec : UInt8) :
    Except Bytes Bytes :=
  codec.dump (serviceCallRequestJson request timeoutSec)

def interfaceShowRequestToJson (request : InterfaceShowRequest) (timeoutSec : UInt8) :
    Except Bytes Bytes :=
  codec.dump (interfaceShowRequestJson request timeoutSec)

end Dumped

/-- The text neither begins nor ends with a space. -/
def Trimmed (text : Bytes) : Prop :=
  (∀ octet ∈ text.head?, isSpace octet = false) ∧ ∀ octet ∈ text.getLast?, isSpace octet = false

instance (text : Bytes) : Decidable (Trimmed text) :=
  inferInstanceAs (Decidable (_ ∧ _))

def Blank (text : Bytes) : Prop := ∀ octet ∈ text, isSpace octet = true

instance (text : Bytes) : Decidable (Blank text) :=
  inferInstanceAs (Decidable (∀ octet ∈ text, isSpace octet = true))

section Trimming

variable {text : Bytes}

theorem leftTrim_eq_self_iff :
    leftTrim text = text ↔ ∀ octet ∈ text.head?, isSpace octet = false := by
  rw [leftTrim, List.dropWhile_eq_self_iff]
  cases text with
  | nil => simp
  | cons octet text => simp

theorem rightTrim_eq_self_iff :
    rightTrim text = text ↔ ∀ octet ∈ text.getLast?, isSpace octet = false := by
  rw [rightTrim, List.rdropWhile_eq_self_iff]
  constructor
  · intro kept octet last
    obtain ⟨nonempty, rfl⟩ := List.mem_getLast?_eq_getLast last
    simpa using kept nonempty
  · intro kept nonempty
    simpa using kept _ (List.getLast_mem_getLast? nonempty)

theorem trim_eq_self_iff : rightTrim (leftTrim text) = text ↔ Trimmed text := by
  constructor
  · intro trimmed
    -- neither trimming can have taken anything, as both only shorten
    have right : (rightTrim (leftTrim text)).length ≤ (leftTrim text).length :=
      (List.rdropWhile_prefix isSpace _).length_le
    have left : leftTrim text = text :=
      (List.dropWhile_suffix isSpace).eq_of_length_le (by rwa [trimmed] at right)
    rw [left] at trimmed
    exact ⟨leftTrim_eq_self_iff.mp left, rightTrim_eq_self_iff.mp trimmed⟩
  · intro trimmed
    rw [leftTrim_eq_self_iff.mpr trimmed.1, rightTrim_eq_self_iff.mpr trimmed.2]

theorem trim_eq_nil_iff : rightTrim (leftTrim text) = [] ↔ Blank text := by
  rw [rightTrim, List.rdropWhile_eq_nil_iff, leftTrim, Blank]
  constructor
  · intro blank
    rw [← List.dropWhile_eq_nil_iff]
    by_contra visible
    have first := List.head_dropWhile_not isSpace visible
    rw [blank _ (List.head_mem visible)] at first
    cases first
  · intro blank octet member
    exact blank octet ((List.dropWhile_suffix isSpace).subset member)

end Trimming

/-- The conversion of a stored 64-bit integer to `int`. -/
def toInt32 (value : Int) : Int := (value + 2147483648) % 4294967296 - 2147483648

/-- `get<int>` truncates integers. -/
def Conversions.Narrows (conversions : Conversions) : Prop :=
  ∀ value : Int, -9223372036854775808 ≤ value → value < 18446744073709551616 →
    conversions.getInt (.integer value) = .ok (toInt32 value)

/-- A name, a type and a payload that a caller may send: text with something in it, and a
name and a type without surrounding spaces. -/
structure Sendable (name msgType payload : Bytes) : Prop where
  utf8 : ∀ text ∈ [name, msgType, payload], validUtf8 text = true
  visible : ∀ text ∈ [name, msgType, payload], ¬ Blank text
  name : Trimmed name
  msgType : Trimmed msgType

instance (name msgType payload : Bytes) : Decidable (Sendable name msgType payload) :=
  decidable_of_iff ((∀ text ∈ [name, msgType, payload], validUtf8 text = true) ∧
      (∀ text ∈ [name, msgType, payload], ¬ Blank text) ∧ Trimmed name ∧ Trimmed msgType)
    ⟨fun holds => ⟨holds.1, holds.2.1, holds.2.2.1, holds.2.2.2⟩,
      fun sendable => ⟨sendable.utf8, sendable.visible, sendable.name, sendable.msgType⟩⟩

/-- What is read of the text that was sent. -/
def Arrives {Options : Type} (read : Bytes → Except Bytes Options) (sent : Except Bytes Bytes)
    (options : Options) : Prop :=
  ∃ text, sent = .ok text ∧ read text = .ok options

section Sent

variable {codec : Codec} {conversions : Conversions} {timeoutSec : UInt8}

theorem requiredStringField_trims {body : Value} {fieldName missingMessage emptyMessage : String}
    {text : Bytes} (found : body.find? (ascii fieldName) = some (.string text))
    (visible : ¬ Blank text) :
    requiredStringField body fieldName missingMessage emptyMessage =
      .ok (rightTrim (leftTrim text)) := by
  simp only [requiredStringField, found]
  exact if_neg fun empty => visible (trim_eq_nil_iff.mp empty)

theorem valueOr_found {α : Type} {request : Value} {key : String} {get : Value → Except Bytes α}
    {default : α} {member : Value} (found : request.find? (ascii key) = some member) :
    valueOr conversions request key get default = get member := by
  obtain ⟨members, rfl, _⟩ := Value.mem_of_find found
  change members.lookup (ascii key) = some member at found
  simp only [valueOr, found]

section Parsed

variable {text : Bytes} {request : Value} {name msgType payload : Bytes}

theorem topicPubOptionsFromJson_of_parse (parsed : codec.parse text = .ok request)
    (topic : request.find? (ascii "topic") = some (.string name))
    (type : request.find? (ascii "msg_type") = some (.string msgType))
    (message : request.find? (ascii "payload") = some (.string payload))
    (visible : ∀ text ∈ [name, msgType, payload], ¬ Blank text) :
    topicPubOptionsFromJson codec text =
      .ok ⟨rightTrim (leftTrim name), rightTrim (leftTrim msgType), rightTrim (leftTrim payload)⟩ := by
  simp only [List.forall_mem_cons] at visible
  obtain ⟨members, rfl, _⟩ := Value.mem_of_find topic
  simp only [topicPubOptionsFromJson, parse, parsed]
  change (do
    let topic ← requiredStringField (.object members) _ _ _
    let msgType ← requiredStringField (.object members) _ _ _
    let message ← requiredStringField (.object members) _ _ _
    return (⟨topic, msgType, message⟩ : TopicPubOptions)) = _
  rw [requiredStringField_trims topic visible.1, requiredStringField_trims type visible.2.1,
    requiredStringField_trims message visible.2.2.1]
  rfl

theorem serviceCallOptionsFromJson_of_parse (narrows : conversions.Narrows)
    (parsed : codec.parse text = .ok request)
    (service : request.find? (ascii "service") = some (.string name))
    (type : request.find? (ascii "msg_type") = some (.string msgType))
    (message : request.find? (ascii "payload") = some (.string payload))
    (visible : ∀ text ∈ [name, msgType, payload], ¬ Blank text) {timeout : Int}
    (low : -9223372036854775808 ≤ timeout) (high : timeout < 18446744073709551616)
    (stored : request.find? (ascii "timeout_sec") = some (.integer timeout)) :
    serviceCallOptionsFromJson codec conversions text =
      .ok ⟨rightTrim (leftTrim name), rightTrim (leftTrim msgType), rightTrim (leftTrim payload),
        clampTimeout (toInt32 timeout)⟩ := by
  simp only [List.forall_mem_cons] at visible
  obtain ⟨members, rfl, _⟩ := Value.mem_of_find service
  simp only [serviceCallOptionsFromJson, parse, parsed]
  change (do
    let service ← requiredStringField (.object members) _ _ _
    let msgType ← requiredStringField (.object members) _ _ _
    let message ← requiredStringField (.object members) _ _ _
    let rawTimeoutSec ← valueOr conversions (.object members) "timeout_sec" conversions.getInt 0
    return (⟨service, msgType, message, clampTimeout rawTimeoutSec⟩ : ServiceCallOptions)) = _
  rw [requiredStringField_trims service visible.1, requiredStringField_trims type visible.2.1,
    requiredStringField_trims message visible.2.2.1, valueOr_found stored, narrows timeout low high]
  rfl

end Parsed

theorem clampTimeout_byte : clampTimeout (toInt32 timeoutSec.toNat) = timeoutSec := by
  have small := timeoutSec.toNat_lt
  have same : (min (max (toInt32 timeoutSec.toNat) 0) 255).toNat = timeoutSec.toNat := by
    unfold toInt32
    omega
  rw [clampTimeout, same, UInt8.ofNat_toNat]

/-- The members of requests and responses. -/
def FlatMember (member : Bytes × Value) : Prop :=
  validUtf8 member.1 = true ∧
    match member.2 with
    | .boolean _ => True
    | .integer value => 0 ≤ value ∧ value < 256
    | .string text => validUtf8 text = true
    | _ => False

theorem writesBack_members {members : List (Bytes × Value)} (writesBack : codec.WritesBack (.object members))
    (ordered : (members.map Prod.fst).Pairwise (· < ·)) (flat : ∀ member ∈ members, FlatMember member) :
    ∃ text, codec.dump (.object members) = .ok text ∧ codec.parse text = .ok (.object members) := by
  apply writesBack
  · rw [Value.utf8_iff, Value.everywhere_object]
    refine ⟨rfl, fun member listed => ?_⟩
    obtain ⟨key, value⟩ := member
    obtain ⟨name, kind⟩ := flat _ listed
    refine ⟨name, ?_⟩
    cases value with
    | boolean | integer => rfl
    | string text => exact kind
    | null | float | array | object => exact kind.elim
  · rw [Value.Storable, Value.everywhere_object]
    refine ⟨decide_eq_true ordered, fun member listed => ⟨rfl, ?_⟩⟩
    obtain ⟨key, value⟩ := member
    obtain ⟨_, kind⟩ := flat _ listed
    cases value with
    | boolean | string => rfl
    | integer value => exact Value.storable_integer (by omega) (by omega)
    | null | float | array | object => exact kind.elim

theorem small_timeout (timeoutSec : UInt8) : (0 : Int) ≤ timeoutSec.toNat ∧ (timeoutSec.toNat : Int) < 256 := by
  have small := timeoutSec.toNat_lt
  omega

theorem topicPub_arrives {request : TopicPubRequest}
    (writesBack : codec.WritesBack (topicPubRequestJson request timeoutSec))
    (sendable : Sendable request.topic request.msgType request.payload) :
    Arrives (topicPubOptionsFromJson codec) (topicPubRequestToJson codec request timeoutSec)
      { topicPubOptionsFromRequest request with payload := rightTrim (leftTrim request.payload) } := by
  have utf8 := sendable.utf8
  simp only [List.forall_mem_cons] at utf8
  have ordered : ([ascii "msg_type", ascii "payload", ascii "timeout_sec", ascii "topic"]).Pairwise
      (· < ·) := by decide +kernel
  obtain ⟨text, dumped, parsed⟩ := writesBack_members writesBack ordered (by
    simp only [List.forall_mem_cons, FlatMember]
    exact ⟨⟨by decide, utf8.2.1⟩, ⟨by decide, utf8.2.2.1⟩, ⟨by decide, small_timeout timeoutSec⟩,
      ⟨by decide, utf8.1⟩, by simp⟩)
  refine ⟨text, dumped, ?_⟩
  rw [topicPubOptionsFromJson_of_parse parsed rfl rfl rfl sendable.visible]
  simp only [topicPubOptionsFromRequest, trim_eq_self_iff.mpr sendable.name,
    trim_eq_self_iff.mpr sendable.msgType]

theorem serviceCall_arrives {request : ServiceCallRequest} (narrows : conversions.Narrows)
    (writesBack : codec.WritesBack (serviceCallRequestJson request timeoutSec))
    (sendable : Sendable request.service request.msgType request.payload) :
    Arrives (serviceCallOptionsFromJson codec conversions)
      (serviceCallRequestToJson codec request timeoutSec)
      ⟨request.service, request.msgType, rightTrim (leftTrim request.payload), timeoutSec⟩ := by
  have utf8 := sendable.utf8
  simp only [List.forall_mem_cons] at utf8
  have ordered : ([ascii "msg_type", ascii "payload", ascii "service", ascii "timeout_sec"]).Pairwise
      (· < ·) := by decide +kernel
  obtain ⟨text, dumped, parsed⟩ := writesBack_members writesBack ordered (by
    simp only [List.forall_mem_cons, FlatMember]
    exact ⟨⟨by decide, utf8.2.1⟩, ⟨by decide, utf8.2.2.1⟩, ⟨by decide, utf8.1⟩,
      ⟨by decide, small_timeout timeoutSec⟩, by simp⟩)
  have small := timeoutSec.toNat_lt
  refine ⟨text, dumped, ?_⟩
  rw [serviceCallOptionsFromJson_of_parse narrows parsed rfl rfl rfl sendable.visible (by omega)
    (by omega) rfl]
  simp only [serviceCallOptionsFromRequest, trim_eq_self_iff.mpr sendable.name,
    trim_eq_self_iff.mpr sendable.msgType, clampTimeout_byte]

theorem Arrives.unique {Options : Type} {read : Bytes → Except Bytes Options}
    {sent : Except Bytes Bytes} {options other : Options} (first : Arrives read sent options)
    (second : Arrives read sent other) : options = other := by
  obtain ⟨text, dumped, parsed⟩ := first
  obtain ⟨_, otherDumped, otherParsed⟩ := second
  cases dumped.symm.trans otherDumped
  cases parsed.symm.trans otherParsed
  rfl

/-- A request arrives as it was sent exactly when its payload neither begins nor ends with
a space: the receiver trims the YAML as it trims names. -/
theorem requests_round_trip_iff (narrows : conversions.Narrows) (timeoutSec : UInt8)
    {topicPub : TopicPubRequest}
    (topicPubWrites : codec.WritesBack (topicPubRequestJson topicPub timeoutSec))
    (topicPubSendable : Sendable topicPub.topic topicPub.msgType topicPub.payload)
    {serviceCall : ServiceCallRequest}
    (serviceCallWrites : codec.WritesBack (serviceCallRequestJson serviceCall timeoutSec))
    (serviceCallSendable : Sendable serviceCall.service serviceCall.msgType serviceCall.payload) :
    (Arrives (topicPubOptionsFromJson codec) (topicPubRequestToJson codec topicPub timeoutSec)
        (topicPubOptionsFromRequest topicPub) ↔ Trimmed topicPub.payload) ∧
    (Arrives (serviceCallOptionsFromJson codec conversions)
        (serviceCallRequestToJson codec serviceCall timeoutSec)
        { serviceCallOptionsFromRequest serviceCall with timeoutSec := timeoutSec } ↔
      Trimmed serviceCall.payload) := by
  have topicPubArrives := topicPub_arrives topicPubWrites topicPubSendable
  have serviceCallArrives := serviceCall_arrives narrows serviceCallWrites serviceCallSendable
  simp only [← trim_eq_self_iff]
  constructor
  · constructor
    · intro arrives
      exact congrArg TopicPubOptions.payload (topicPubArrives.unique arrives)
    · intro trimmed
      rw [trimmed] at topicPubArrives
      exact topicPubArrives
  · constructor
    · intro arrives
      exact congrArg ServiceCallOptions.payload (serviceCallArrives.unique arrives)
    · intro trimmed
      rw [trimmed] at serviceCallArrives
      exact serviceCallArrives

end Sent

section Texts

/-! A library that writes flat objects and reads the texts of those it knows. -/

def quoted (text : Bytes) : Bytes :=
  ascii "\"" ++ text.flatMap (fun octet => if octet = 10 then ascii "\\n" else [octet]) ++ ascii "\""

def memberText : Bytes × Value → Bytes
  | (key, .string text) => quoted key ++ ascii ":" ++ quoted text
  | (key, .boolean value) => quoted key ++ ascii ":" ++ ascii (if value then "true" else "false")
  | (key, .integer value) => quoted key ++ ascii ":" ++ ascii (toString value)
  | (key, _) => quoted key

def objectText (members : List (Bytes × Value)) : Bytes :=
  ascii "\x7b" ++ List.intercalate (ascii ",") (members.map memberText) ++ ascii "\x7d"

def flatCodec (known : List (List (Bytes × Value))) : Codec where
  parse payload :=
    match known.find? fun members => objectText members = payload with
    | some members => .ok (.object members)
    | none => .error ⟨[], [], []⟩
  dump
    | .object members => .ok (objectText members)
    | _ => .error []

theorem flatCodec_parse {known : List (List (Bytes × Value))} {members : List (Bytes × Value)}
    (listed : members ∈ known)
    (different : ∀ other ∈ known, objectText other = objectText members → other = members) :
    (flatCodec known).parse (objectText members) = .ok (.object members) := by
  cases first : known.find? fun other => objectText other = objectText members with
  | none => simpa using List.find?_eq_none.mp first members listed
  | some found =>
      have same := different found (List.mem_of_find?_eq_some first)
        (by simpa using List.find?_some first)
      simp only [flatCodec, first, same]

theorem flatCodec_writesBack {known : List (List (Bytes × Value))} {members : List (Bytes × Value)}
    (listed : members ∈ known)
    (different : ∀ other ∈ known, objectText other = objectText members → other = members) :
    (flatCodec known).WritesBack (.object members) :=
  fun _ _ => ⟨objectText members, rfl, flatCodec_parse listed different⟩

def narrowingConversions : Conversions where
  typeError _ := ascii "[json.exception.type_error.302] type must be number"
  missingKey key := ascii "[json.exception.out_of_range.403] key '" ++ key ++ ascii "' not found"
  getInt
    | .integer value => .ok (toInt32 value)
    | _ => .error (ascii "[json.exception.type_error.302] type must be number")

theorem narrowingConversions_narrows : narrowingConversions.Narrows := fun _ _ _ => rfl

def chatterRequest : TopicPubRequest :=
  ⟨ascii "robot", ascii "/chatter", ascii "std_msgs/msg/String", ascii "data: hello", 0⟩

def setBoolRequest (payload : String) : ServiceCallRequest :=
  ⟨ascii "robot", ascii "/set_bool", ascii "std_srvs/srv/SetBool", ascii payload, 0⟩

def chatterMembers : List (Bytes × Value) :=
  [(ascii "msg_type", .string (ascii "std_msgs/msg/String")),
    (ascii "payload", .string (ascii "data: hello")), (ascii "timeout_sec", .integer 10),
    (ascii "topic", .string (ascii "/chatter"))]

def setBoolMembers (payload : String) : List (Bytes × Value) :=
  [(ascii "msg_type", .string (ascii "std_srvs/srv/SetBool")),
    (ascii "payload", .string (ascii payload)), (ascii "service", .string (ascii "/set_bool")),
    (ascii "timeout_sec", .integer 10)]

/-- Requests whose YAML is on one line arrive as they were sent. -/
theorem requests_round_trip_of_one_line :
    Arrives (topicPubOptionsFromJson (flatCodec [chatterMembers, setBoolMembers "data: true"]))
        (topicPubRequestToJson (flatCodec [chatterMembers, setBoolMembers "data: true"])
          chatterRequest 10)
        ⟨ascii "/chatter", ascii "std_msgs/msg/String", ascii "data: hello"⟩ ∧
      Arrives (serviceCallOptionsFromJson (flatCodec [chatterMembers, setBoolMembers "data: true"])
          narrowingConversions)
        (serviceCallRequestToJson (flatCodec [chatterMembers, setBoolMembers "data: true"])
          (setBoolRequest "data: true") 10)
        ⟨ascii "/set_bool", ascii "std_srvs/srv/SetBool", ascii "data: true", 10⟩ := by
  have distinct : objectText chatterMembers ≠ objectText (setBoolMembers "data: true") := by
    decide +kernel
  have first : (flatCodec [chatterMembers, setBoolMembers "data: true"]).WritesBack
      (topicPubRequestJson chatterRequest 10) := by
    apply flatCodec_writesBack List.mem_cons_self
    intro other listed same
    simp only [List.mem_cons, List.not_mem_nil, or_false] at listed
    rcases listed with rfl | rfl
    · rfl
    · exact absurd same.symm distinct
  have second : (flatCodec [chatterMembers, setBoolMembers "data: true"]).WritesBack
      (serviceCallRequestJson (setBoolRequest "data: true") 10) := by
    apply flatCodec_writesBack (List.mem_cons_of_mem _ List.mem_cons_self)
    intro other listed same
    simp only [List.mem_cons, List.not_mem_nil, or_false] at listed
    rcases listed with rfl | rfl
    · exact absurd same distinct
    · rfl
  have arrives := requests_round_trip_iff narrowingConversions_narrows 10 first (by decide +kernel)
    second (by decide +kernel)
  exact ⟨arrives.1.mpr (by decide +kernel), arrives.2.mpr (by decide +kernel)⟩

/-- The indentation of the first line is lost, and with it the YAML that was written. -/
theorem payload_loses_indentation :
    let request := setBoolRequest "  a: 1\n  b: 2"
    let codec := flatCodec [setBoolMembers "  a: 1\n  b: 2"]
    Sendable request.service request.msgType request.payload ∧
      codec.WritesBack (serviceCallRequestJson request 10) ∧ narrowingConversions.Narrows ∧
      Arrives (serviceCallOptionsFromJson codec narrowingConversions)
        (serviceCallRequestToJson codec request 10)
        ⟨request.service, request.msgType, ascii "a: 1\n  b: 2", 10⟩ ∧
      request.payload ≠ ascii "a: 1\n  b: 2" := by
  intro request codec
  have sendable : Sendable request.service request.msgType request.payload := by decide +kernel
  have writesBack : codec.WritesBack (serviceCallRequestJson request 10) := by
    apply flatCodec_writesBack List.mem_cons_self
    intro other listed _
    exact List.mem_singleton.mp listed
  refine ⟨sendable, writesBack, narrowingConversions_narrows, ?_, by decide +kernel⟩
  have arrives := serviceCall_arrives narrowingConversions_narrows writesBack sendable
  have trimmed : rightTrim (leftTrim request.payload) = ascii "a: 1\n  b: 2" := by decide +kernel
  rwa [trimmed] at arrives

end Texts

end RosPortal.Cli
