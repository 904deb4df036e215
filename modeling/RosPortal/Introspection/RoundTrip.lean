import RosPortal.Introspection.Conversion

/-! A message sent as JSON and read back. The receiver limits the size of the frame
and the length of every array in it; the sender limits neither. -/

set_option autoImplicit false

namespace RosPortal.Introspection

open JsonText

/-- The libraries undo each other on messages without non-finite numbers: parsing
reads back what was dumped, and serializing gives a message that decodes to the one
that was deserialized. -/
structure Inverse {Message : Type} (codec : Codec) (serializer : JsonSerializer)
    (decode : String → Bytes → Option Message) : Prop where
  reads : ∀ {msgType : String} {message text : Bytes} {root : Value},
    serializer.deserialize msgType message = .ok root → root.Finite →
    codec.dump root = .ok text → codec.parse text = .ok root
  nonempty : ∀ {text : Bytes} {root : Value}, codec.dump root = .ok text → text ≠ []
  writes : ∀ {msgType : String} {message : Bytes} {root : Value},
    serializer.deserialize msgType message = .ok root → root.Finite →
    ∃ back, serializer.serialize msgType root = .ok back ∧ decode msgType back = decode msgType message

/-- The JSON form of the message is an object that a receiver takes: its text is
short enough, and so is every array in it. -/
def FitsReceiver (codec : Codec) (serializer : JsonSerializer) (msgType : String) (message : Bytes) :
    Prop :=
  ∃ root text, serializer.deserialize msgType message = .ok root ∧ codec.dump root = .ok text ∧
    root.isObject = true ∧ text.length ≤ maxYamlPayloadBytes ∧
    ∀ entries, Value.Within (.array entries) root → entries.length ≤ maxResizableSequenceLength

theorem sent_cases {codec : Codec} {serializer : JsonSerializer} {msgType : String}
    {message frame : Bytes}
    (sent : jsonFromSerializedMessage codec serializer msgType message = .ok frame) :
    ∃ root, serializer.deserialize msgType message = .ok root ∧ codec.dump root = .ok frame := by
  unfold jsonFromSerializedMessage at sent
  cases converted : serializer.deserialize msgType message with
  | error what => simp [converted] at sent
  | ok root => exact ⟨root, rfl, by simpa [converted] using sent⟩

/-- What the receiver does with a frame that parses to `root`. -/
theorem serializedMessageFromJson_of_parse {codec : Codec} (serializer : JsonSerializer)
    (msgType : String) {payload : Bytes} (back : Bytes) {root : Value} (nonempty : payload ≠ [])
    (parsed : codec.parse payload = .ok root) :
    serializedMessageFromJson codec serializer msgType payload = .ok back ↔
      payload.length ≤ maxYamlPayloadBytes ∧ root.isObject = true ∧
        containsOversizedSequence root = false ∧ serializer.serialize msgType root = .ok back := by
  unfold serializedMessageFromJson
  rw [if_neg nonempty]
  by_cases short : payload.length ≤ maxYamlPayloadBytes
  · rw [if_neg (by omega)]
    cases object : root.isObject <;> cases oversized : containsOversizedSequence root <;>
      simp [parsed, object, oversized, short]
  · rw [if_pos (by omega)]
    simp [short]

/-- A frame a portal has sent is accepted, and read back as the same message, exactly
when its JSON form fits the receiver's limits. -/
theorem json_round_trip_iff {Message : Type} {codec : Codec} {serializer : JsonSerializer}
    {decode : String → Bytes → Option Message} (inverse : Inverse codec serializer decode)
    {msgType : String} {message frame : Bytes}
    (finite : ∀ root, serializer.deserialize msgType message = .ok root → root.Finite)
    (sent : jsonFromSerializedMessage codec serializer msgType message = .ok frame) :
    (∃ back, serializedMessageFromJson codec serializer msgType frame = .ok back ∧
      decode msgType back = decode msgType message) ↔
      FitsReceiver codec serializer msgType message := by
  obtain ⟨root, converted, dumped⟩ := sent_cases sent
  have parsed := inverse.reads converted (finite root converted) dumped
  have accepts := fun back => serializedMessageFromJson_of_parse serializer msgType back
    (inverse.nonempty dumped) parsed
  constructor
  · rintro ⟨back, accepted, _⟩
    obtain ⟨short, object, within, _⟩ := (accepts back).mp accepted
    refine ⟨root, frame, converted, dumped, object, short, ?_⟩
    intro entries found
    by_contra long
    rw [oversized_of_within found (by omega)] at within
    cases within
  · rintro ⟨other, text, otherConverted, otherDumped, object, short, within⟩
    cases converted.symm.trans otherConverted
    cases dumped.symm.trans otherDumped
    obtain ⟨back, serialized, same⟩ := inverse.writes converted (finite root converted)
    refine ⟨back, (accepts back).mpr ⟨short, object, ?_, serialized⟩, same⟩
    rw [Bool.eq_false_iff]
    intro oversized
    obtain ⟨entries, found, long⟩ := containsOversizedSequence_iff.mp oversized
    exact absurd (within entries found) (by omega)

section Strings

/-! Libraries that convert `std_msgs/msg/String` messages of lower-case letters. -/

def isLetter (octet : UInt8) : Bool := 97 ≤ octet && octet ≤ 122

def stringValue (data : Bytes) : Value := .object [(ascii "data", .string data)]

def stringText (data : Bytes) : Bytes := ascii "\x7b\"data\":\"" ++ data ++ ascii "\"\x7d"

def stringCodec : Codec where
  parse payload :=
    let data := (payload.drop 9).take (payload.length - 11)
    if payload = stringText data ∧ data.all isLetter = true then .ok (stringValue data)
    else .error ⟨[], [], []⟩
  dump
    | .object [(key, .string data)] =>
        if key = ascii "data" ∧ data.all isLetter = true then .ok (stringText data) else .error []
    | _ => .error []

/-- The length of a CDR string, with its terminator, in four octets. -/
def lengthOctets (length : Nat) : Bytes :=
  [UInt8.ofNat length, UInt8.ofNat (length >>> 8), UInt8.ofNat (length >>> 16),
    UInt8.ofNat (length >>> 24)]

def stringMessage (data : Bytes) : Bytes :=
  [0, 1, 0, 0] ++ lengthOctets (data.length + 1) ++ data ++ [0]

def decodeString (_ : String) (message : Bytes) : Option Bytes :=
  let data := (message.drop 8).take (message.length - 9)
  if message = stringMessage data then some data else none

def stringSerializer : JsonSerializer where
  deserialize msgType message :=
    match decodeString msgType message with
    | some data => if data.all isLetter = true then .ok (stringValue data) else .error []
    | none => .error []
  serialize _
    | .object [(_, .string data)] => .ok (stringMessage data)
    | _ => .error []

theorem parse_stringText {data : Bytes} (letters : data.all isLetter = true) :
    stringCodec.parse (stringText data) = .ok (stringValue data) := by
  have inner : ((stringText data).drop 9).take ((stringText data).length - 11) = data := by
    have before : ascii "\x7b\"data\":\"" = [123, 34, 100, 97, 116, 97, 34, 58, 34] := by decide
    have after : ascii "\"\x7d" = [34, 125] := by decide
    simp [stringText, before, after]
  simp only [stringCodec, inner]
  exact if_pos ⟨trivial, letters⟩

theorem decode_stringMessage (msgType : String) (data : Bytes) :
    decodeString msgType (stringMessage data) = some data := by
  have inner : ((stringMessage data).drop 8).take ((stringMessage data).length - 9) = data := by
    simp [stringMessage, lengthOctets]
  simp only [decodeString, inner]
  exact if_pos trivial

theorem deserialize_string {msgType : String} {message : Bytes} {root : Value}
    (converted : stringSerializer.deserialize msgType message = .ok root) :
    ∃ data, message = stringMessage data ∧ data.all isLetter = true ∧ root = stringValue data := by
  simp only [stringSerializer] at converted
  cases decoded : decodeString msgType message with
  | none => simp [decoded] at converted
  | some data =>
      have written : message = stringMessage data := by
        simp only [decodeString] at decoded
        split_ifs at decoded with same
        cases decoded
        exact same
      by_cases letters : data.all isLetter = true
      · simp only [decoded, if_pos letters, Except.ok.injEq] at converted
        exact ⟨data, written, letters, converted.symm⟩
      · simp only [decoded, if_neg letters, reduceCtorEq] at converted

theorem dump_stringValue {data : Bytes} (letters : data.all isLetter = true) :
    stringCodec.dump (stringValue data) = .ok (stringText data) :=
  if_pos ⟨rfl, letters⟩

theorem stringInverse : Inverse stringCodec stringSerializer decodeString := by
  constructor
  · intro msgType message text root converted _ dumped
    obtain ⟨data, _, letters, rfl⟩ := deserialize_string converted
    cases (dump_stringValue letters).symm.trans dumped
    exact parse_stringText letters
  · intro text root dumped
    simp only [stringCodec] at dumped
    split at dumped
    · split_ifs at dumped
      cases dumped
      simp [stringText, ascii]
    · cases dumped
  · intro msgType message root converted _
    obtain ⟨data, rfl, _, rfl⟩ := deserialize_string converted
    exact ⟨stringMessage data, rfl, rfl⟩

theorem finite_stringValue (data : Bytes) : (stringValue data).Finite := by
  intro bits within
  cases within with
  | member listed inner =>
      cases List.mem_singleton.mp listed
      cases inner

theorem json_of_stringMessage (msgType : String) {data : Bytes} (letters : data.all isLetter = true) :
    jsonFromSerializedMessage stringCodec stringSerializer msgType (stringMessage data) =
      .ok (stringText data) := by
  simp only [jsonFromSerializedMessage, stringSerializer, decode_stringMessage, if_pos letters]
  exact dump_stringValue letters

theorem json_round_trip_of_word :
    ∃ back, serializedMessageFromJson stringCodec stringSerializer "std_msgs/msg/String"
        (stringText (ascii "hello")) = .ok back ∧
      decodeString "std_msgs/msg/String" back =
        decodeString "std_msgs/msg/String" (stringMessage (ascii "hello")) := by
  refine (json_round_trip_iff stringInverse ?_
    (json_of_stringMessage "std_msgs/msg/String" (by decide))).mpr ?_
  · intro root converted
    obtain ⟨data, _, _, rfl⟩ := deserialize_string converted
    exact finite_stringValue data
  · refine ⟨_, _, ?_, dump_stringValue (show (ascii "hello").all isLetter = true by decide), rfl, by decide, ?_⟩
    · simp only [stringSerializer, decode_stringMessage]
      rfl
    · intro entries within
      cases within with
      | member listed inner =>
          cases List.mem_singleton.mp listed
          cases inner

/-- A string whose JSON text is one byte too long is sent and refused. -/
theorem json_frame_refused :
    Inverse stringCodec stringSerializer decodeString ∧
      ∃ data : Bytes, data.length = 262134 ∧
        jsonFromSerializedMessage stringCodec stringSerializer "std_msgs/msg/String"
          (stringMessage data) = .ok (stringText data) ∧
        serializedMessageFromJson stringCodec stringSerializer "std_msgs/msg/String"
          (stringText data) =
            .error (ascii "payload exceeds maximum size of 262144 bytes") := by
  refine ⟨stringInverse, List.replicate 262134 97, List.length_replicate, ?_, ?_⟩
  · refine json_of_stringMessage _ ?_
    rw [List.all_eq_true]
    intro octet member
    rw [List.eq_of_mem_replicate member]
    rfl
  · have long : (stringText (List.replicate 262134 97)).length = 262145 := by
      simp only [stringText, List.length_append, List.length_replicate]
      decide
    unfold serializedMessageFromJson
    rw [if_neg (by intro empty; rw [empty] at long; cases long), if_pos (by rw [long]; decide)]
    decide

end Strings

end RosPortal.Introspection
