import RosPortal.Json.Utf8

/-! ROS topic names made of the identity of a participant and the name of a track. An
identity becomes one segment without a slash, so what is lost of a name is lost of its
identity alone. -/

set_option autoImplicit false

namespace RosPortal.Naming

open JsonText

def slash : UInt8 := 0x2F

def underscore : UInt8 := 0x5F

def isDigit (octet : UInt8) : Bool := 0x30 ≤ octet && octet ≤ 0x39

/-- `std::isalnum` in the "C" locale. -/
def isAlnum (octet : UInt8) : Bool :=
  isDigit octet || (0x41 ≤ octet && octet ≤ 0x5A) || (0x61 ≤ octet && octet ≤ 0x7A)

def normalizeTrackTopicName (trackName : Bytes) : Option Bytes :=
  match trackName with
  | [] => none
  | first :: _ => if first = slash then some trackName else some (slash :: trackName)

/-- What the loop of `sanitizeRosNameToken` appends for one character. -/
def sanitizeOctet (octet : UInt8) : UInt8 :=
  if isAlnum octet || octet = underscore then octet else underscore

def sanitizeRosNameToken (token : Bytes) : Option Bytes :=
  match token.map sanitizeOctet with
  | [] => none
  | first :: rest => if isDigit first then some (underscore :: first :: rest) else some (first :: rest)

def liveKitToRosTopicName (trackName : Bytes) : Option Bytes :=
  match normalizeTrackTopicName trackName with
  | none => none
  | some normalized => if normalized = [slash] then none else some normalized

/-- The overload of `liveKitToRosTopicName` with the identity of the participant. -/
def liveKitToRosTopicNameOf (participantIdentity trackName : Bytes) : Option Bytes :=
  match liveKitToRosTopicName trackName, sanitizeRosNameToken participantIdentity with
  | some rosTopicName, some participantPrefix => some (slash :: participantPrefix ++ rosTopicName)
  | _, _ => none

theorem append_separator_inj {α : Type} {separator : α} {before after before' after' : List α}
    (first : separator ∉ before) (first' : separator ∉ before') :
    before ++ separator :: after = before' ++ separator :: after' ↔ before = before' ∧ after = after' := by
  induction before generalizing before' with
  | nil =>
      cases before' with
      | nil => simp
      | cons head tail =>
          rw [List.mem_cons, not_or] at first'
          simp [first'.1]
  | cons head tail ih =>
      rw [List.mem_cons, not_or] at first
      cases before' with
      | nil => simp [Ne.symm first.1]
      | cons head' tail' =>
          rw [List.mem_cons, not_or] at first'
          simp [ih first.2 first'.2, and_assoc]

section Normalize

variable {trackName normalized : Bytes}

theorem normalize_head (found : normalizeTrackTopicName trackName = some normalized) :
    ∃ rest, normalized = slash :: rest := by
  cases trackName with
  | nil => cases found
  | cons first rest =>
      simp only [normalizeTrackTopicName] at found
      split_ifs at found with slashed
      · cases found
        exact ⟨rest, by rw [slashed]⟩
      · cases found
        exact ⟨first :: rest, rfl⟩

theorem liveKitToRosTopicName_eq (found : liveKitToRosTopicName trackName = some normalized) :
    normalizeTrackTopicName trackName = some normalized := by
  unfold liveKitToRosTopicName at found
  split at found
  · cases found
  next known =>
    split_ifs at found
    cases found
    exact known

end Normalize

section Sanitize

@[simp] theorem sanitizeOctet_ne_slash (octet : UInt8) : sanitizeOctet octet ≠ slash := by
  unfold sanitizeOctet
  split_ifs with valid
  · rintro rfl
    revert valid
    decide
  · decide

/-- Two identities that differ only in characters that ROS names cannot have, or in one
such character before a digit at the beginning. -/
inductive SameToken : Bytes → Bytes → Prop where
  | replaced {left right : Bytes} : left.map sanitizeOctet = right.map sanitizeOctet → SameToken left right
  | leftDigit {left right : Bytes} : (left.map sanitizeOctet).head?.any isDigit = true →
      right.map sanitizeOctet = underscore :: left.map sanitizeOctet → SameToken left right
  | rightDigit {left right : Bytes} : (right.map sanitizeOctet).head?.any isDigit = true →
      left.map sanitizeOctet = underscore :: right.map sanitizeOctet → SameToken left right

/-- What `sanitizeRosNameToken` returns: the replaced characters, behind an underscore
where they start with a digit. -/
theorem sanitize_cases {token sanitized : Bytes} (found : sanitizeRosNameToken token = some sanitized) :
    ((token.map sanitizeOctet).head?.any isDigit = true ∧ sanitized = underscore :: token.map sanitizeOctet) ∨
      ((token.map sanitizeOctet).head?.any isDigit = false ∧ sanitized = token.map sanitizeOctet) := by
  unfold sanitizeRosNameToken at found
  split at found
  · cases found
  next first rest replaced =>
    rw [replaced]
    split_ifs at found with digit
    · cases found
      exact .inl ⟨digit, rfl⟩
    · cases found
      exact .inr ⟨Bool.eq_false_iff.mpr digit, rfl⟩

theorem sanitize_no_slash {token sanitized : Bytes} (found : sanitizeRosNameToken token = some sanitized) :
    slash ∉ sanitized := by
  have replaced : slash ∉ token.map sanitizeOctet := by
    intro member
    obtain ⟨octet, _, same⟩ := List.mem_map.mp member
    exact sanitizeOctet_ne_slash octet same
  rcases sanitize_cases found with ⟨_, rfl⟩ | ⟨_, rfl⟩
  · rw [List.mem_cons, not_or]
    exact ⟨by decide, replaced⟩
  · exact replaced

theorem sanitize_eq_iff {left right first second : Bytes}
    (leftFound : sanitizeRosNameToken left = some first)
    (rightFound : sanitizeRosNameToken right = some second) : first = second ↔ SameToken left right := by
  have digits : (underscore :: left.map sanitizeOctet).head?.any isDigit = false ∧
      (underscore :: right.map sanitizeOctet).head?.any isDigit = false := ⟨rfl, rfl⟩
  constructor
  · rintro rfl
    rcases sanitize_cases leftFound with ⟨leftDigit, leftName⟩ | ⟨_, leftName⟩
    · rcases sanitize_cases rightFound with ⟨_, rightName⟩ | ⟨_, rightName⟩
      · exact .replaced (List.cons.inj (leftName.symm.trans rightName)).2
      · exact .leftDigit leftDigit (rightName.symm.trans leftName)
    · rcases sanitize_cases rightFound with ⟨rightDigit, rightName⟩ | ⟨_, rightName⟩
      · exact .rightDigit rightDigit (leftName.symm.trans rightName)
      · exact .replaced (leftName.symm.trans rightName)
  · intro same
    cases same with
    | replaced same =>
        rcases sanitize_cases leftFound with ⟨leftDigit, rfl⟩ | ⟨leftPlain, rfl⟩
        · rcases sanitize_cases rightFound with ⟨_, rfl⟩ | ⟨rightPlain, rfl⟩
          · rw [same]
          · rw [same, rightPlain] at leftDigit
            cases leftDigit
        · rcases sanitize_cases rightFound with ⟨rightDigit, rfl⟩ | ⟨_, rfl⟩
          · rw [← same, leftPlain] at rightDigit
            cases rightDigit
          · exact same
    | leftDigit digit same =>
        rcases sanitize_cases leftFound with ⟨_, rfl⟩ | ⟨plain, _⟩
        · rcases sanitize_cases rightFound with ⟨rightDigit, _⟩ | ⟨_, rfl⟩
          · rw [same, digits.1] at rightDigit
            cases rightDigit
          · exact same.symm
        · rw [digit] at plain
          cases plain
    | rightDigit digit same =>
        rcases sanitize_cases rightFound with ⟨_, rfl⟩ | ⟨plain, _⟩
        · rcases sanitize_cases leftFound with ⟨leftDigit, _⟩ | ⟨_, rfl⟩
          · rw [same, digits.2] at leftDigit
            cases leftDigit
          · exact same
        · rw [digit] at plain
          cases plain

end Sanitize

section Collisions

variable {participant other trackName otherTrack topic otherTopic : Bytes}

theorem liveKitToRosTopicNameOf_parts (found : liveKitToRosTopicNameOf participant trackName = some topic) :
    ∃ token rest, sanitizeRosNameToken participant = some token ∧
      normalizeTrackTopicName trackName = some (slash :: rest) ∧
      topic = slash :: token ++ slash :: rest := by
  unfold liveKitToRosTopicNameOf at found
  split at found
  next named sanitized =>
    cases found
    have normalized := liveKitToRosTopicName_eq named
    obtain ⟨rest, rfl⟩ := normalize_head normalized
    exact ⟨_, rest, sanitized, normalized, rfl⟩
  · cases found

/-- The token ends at the second slash, so a topic has its token and its track name. -/
theorem topics_eq_iff (found : liveKitToRosTopicNameOf participant trackName = some topic)
    (otherFound : liveKitToRosTopicNameOf other otherTrack = some otherTopic) :
    topic = otherTopic ↔ SameToken participant other ∧
      normalizeTrackTopicName trackName = normalizeTrackTopicName otherTrack := by
  obtain ⟨token, rest, sanitized, normalized, rfl⟩ := liveKitToRosTopicNameOf_parts found
  obtain ⟨otherToken, otherRest, otherSanitized, otherNormalized, rfl⟩ :=
    liveKitToRosTopicNameOf_parts otherFound
  rw [normalized, otherNormalized, ← sanitize_eq_iff sanitized otherSanitized]
  simp only [List.cons_append, List.cons.injEq, true_and, Option.some.injEq]
  exact append_separator_inj (sanitize_no_slash sanitized) (sanitize_no_slash otherSanitized)

/-- Two topics are one only for one participant and one name, except where the identities
share their token. -/
theorem preserved_topics_distinct_iff
    (found : liveKitToRosTopicNameOf participant trackName = some topic)
    (otherFound : liveKitToRosTopicNameOf other otherTrack = some otherTopic) :
    (topic = otherTopic → participant = other ∧
        normalizeTrackTopicName trackName = normalizeTrackTopicName otherTrack) ↔
      participant = other ∨ ¬ SameToken participant other ∨
        normalizeTrackTopicName trackName ≠ normalizeTrackTopicName otherTrack := by
  rw [topics_eq_iff found otherFound]
  tauto

/-- The identities `robot-1` and `robot_1` share their token. -/
theorem one_topic_for_two_robots :
    liveKitToRosTopicNameOf (ascii "robot-1") (ascii "/imu") = some (ascii "/robot_1/imu") ∧
      liveKitToRosTopicNameOf (ascii "robot_1") (ascii "/imu") = some (ascii "/robot_1/imu") ∧
      ascii "robot-1" ≠ ascii "robot_1" := by
  decide +kernel

/-- Two robots whose names are not confused publish on topics of their own. -/
theorem robots_on_distinct_topics :
    (ascii "/robot_1/imu" = ascii "/robot_2/imu" → ascii "robot-1" = ascii "robot-2" ∧
        normalizeTrackTopicName (ascii "imu") = normalizeTrackTopicName (ascii "/imu")) ↔
      ascii "robot-1" = ascii "robot-2" ∨ ¬ SameToken (ascii "robot-1") (ascii "robot-2") ∨
        normalizeTrackTopicName (ascii "imu") ≠ normalizeTrackTopicName (ascii "/imu") := by
  have first : liveKitToRosTopicNameOf (ascii "robot-1") (ascii "imu") = some (ascii "/robot_1/imu") := by
    decide +kernel
  have second : liveKitToRosTopicNameOf (ascii "robot-2") (ascii "/imu") = some (ascii "/robot_2/imu") := by
    decide +kernel
  exact preserved_topics_distinct_iff first second

end Collisions

end RosPortal.Naming
