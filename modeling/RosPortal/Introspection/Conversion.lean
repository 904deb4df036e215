import RosPortal.Json.Value

/-! Conversion between serialized ROS messages and the JSON frames of data tracks. -/

set_option autoImplicit false

namespace RosPortal.Introspection

open JsonText

/-- `kMaxYamlPayloadBytes`. -/
def maxYamlPayloadBytes : Nat := 256 * 1024

/-- `kMaxResizableSequenceLength`. -/
def maxResizableSequenceLength : Nat := 65536

mutual

def containsOversizedSequence : Value → Bool
  | .array entries =>
      decide (maxResizableSequenceLength < entries.length) || oversizedEntry entries
  | .object members => oversizedMember members
  | _ => false

def oversizedEntry : List Value → Bool
  | [] => false
  | entry :: entries => containsOversizedSequence entry || oversizedEntry entries

def oversizedMember : List (Bytes × Value) → Bool
  | [] => false
  | (_, value) :: members => containsOversizedSequence value || oversizedMember members

end

/-- The type-specific conversions of the serializer; a failure is the text of the
exception it throws. -/
structure JsonSerializer where
  deserialize : String → Bytes → Except Bytes Value
  serialize : String → Value → Except Bytes Bytes

section

variable (codec : Codec) (serializer : JsonSerializer)

def serializedMessageFromJson (msgType : String) (payload : Bytes) : Except Bytes Bytes :=
  if payload = [] then .error (ascii "payload must be non-empty")
  else if maxYamlPayloadBytes < payload.length then
    .error (ascii ("payload exceeds maximum size of " ++ toString maxYamlPayloadBytes ++ " bytes"))
  else
    match codec.parse payload with
    | .error error => .error (ascii "payload is not valid JSON: " ++ error.what)
    | .ok root =>
        if root.isObject = false then .error (ascii "payload must be a JSON object")
        else if containsOversizedSequence root then
          .error (ascii ("payload contains an array exceeding maximum length " ++
            toString maxResizableSequenceLength))
        else serializer.serialize msgType root

def jsonFromSerializedMessage (msgType : String) (message : Bytes) : Except Bytes Bytes :=
  match serializer.deserialize msgType message with
  | .error what => .error what
  | .ok root => codec.dump root

end

mutual

theorem within_of_oversized : ∀ {value : Value}, containsOversizedSequence value = true →
    ∃ entries, Value.Within (.array entries) value ∧ maxResizableSequenceLength < entries.length
  | .array entries, oversized => by
      simp only [containsOversizedSequence, Bool.or_eq_true, decide_eq_true_eq] at oversized
      rcases oversized with long | inner
      · exact ⟨entries, .here, long⟩
      · obtain ⟨entry, member, found, within, long⟩ := within_of_oversizedEntry inner
        exact ⟨found, .entry member within, long⟩
  | .object members, oversized => by
      simp only [containsOversizedSequence] at oversized
      obtain ⟨key, value, member, found, within, long⟩ := within_of_oversizedMember oversized
      exact ⟨found, .member member within, long⟩
  | .null, oversized | .boolean _, oversized | .integer _, oversized | .float _, oversized
  | .string _, oversized => by simp [containsOversizedSequence] at oversized

theorem within_of_oversizedEntry : ∀ {entries : List Value}, oversizedEntry entries = true →
    ∃ entry ∈ entries, ∃ found, Value.Within (.array found) entry ∧
      maxResizableSequenceLength < found.length
  | [], oversized => by simp [oversizedEntry] at oversized
  | entry :: entries, oversized => by
      simp only [oversizedEntry, Bool.or_eq_true] at oversized
      rcases oversized with here | later
      · exact ⟨entry, List.mem_cons_self, within_of_oversized here⟩
      · obtain ⟨inner, member, rest⟩ := within_of_oversizedEntry later
        exact ⟨inner, List.mem_cons_of_mem _ member, rest⟩

theorem within_of_oversizedMember : ∀ {members : List (Bytes × Value)},
    oversizedMember members = true →
    ∃ key value, (key, value) ∈ members ∧ ∃ found, Value.Within (.array found) value ∧
      maxResizableSequenceLength < found.length
  | [], oversized => by simp [oversizedMember] at oversized
  | (key, value) :: members, oversized => by
      simp only [oversizedMember, Bool.or_eq_true] at oversized
      rcases oversized with here | later
      · exact ⟨key, value, List.mem_cons_self, within_of_oversized here⟩
      · obtain ⟨otherKey, inner, member, rest⟩ := within_of_oversizedMember later
        exact ⟨otherKey, inner, List.mem_cons_of_mem _ member, rest⟩

end

theorem oversizedEntry_of_mem {entry : Value} {entries : List Value} (member : entry ∈ entries)
    (oversized : containsOversizedSequence entry = true) : oversizedEntry entries = true := by
  induction entries with
  | nil => cases member
  | cons first entries ih =>
      rcases List.mem_cons.mp member with rfl | later
      · simp [oversizedEntry, oversized]
      · simp [oversizedEntry, ih later]

theorem oversizedMember_of_mem {key : Bytes} {value : Value} {members : List (Bytes × Value)}
    (member : (key, value) ∈ members) (oversized : containsOversizedSequence value = true) :
    oversizedMember members = true := by
  induction members with
  | nil => cases member
  | cons first members ih =>
      obtain ⟨firstKey, firstValue⟩ := first
      rcases List.mem_cons.mp member with same | later
      · cases same
        simp [oversizedMember, oversized]
      · simp [oversizedMember, ih later]

theorem oversized_of_within {entries : List Value} {value : Value}
    (within : Value.Within (.array entries) value)
    (long : maxResizableSequenceLength < entries.length) : containsOversizedSequence value = true := by
  generalize same : Value.array entries = inner at within
  induction within with
  | here =>
      subst same
      simp [containsOversizedSequence, long]
  | entry member _ ih => simp [containsOversizedSequence, oversizedEntry_of_mem member (ih same)]
  | member member _ ih => simp [containsOversizedSequence, oversizedMember_of_mem member (ih same)]
  | key _ => cases same

/-- The check finds an array that is too long wherever it is nested. -/
theorem containsOversizedSequence_iff {value : Value} :
    containsOversizedSequence value = true ↔
      ∃ entries, Value.Within (.array entries) value ∧ maxResizableSequenceLength < entries.length := by
  constructor
  · exact within_of_oversized
  · rintro ⟨entries, within, long⟩
    exact oversized_of_within within long

end RosPortal.Introspection
