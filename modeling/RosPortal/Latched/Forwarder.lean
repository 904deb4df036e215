import Mathlib.Logic.Function.Basic
import RosPortal.Latched.Base64

/-! The outbound side of the latched topic forwarder: the store of distinct messages and
the delivery bookkeeping of every peer, one definition for each section that holds
`state_mutex_`. -/

set_option autoImplicit false

namespace RosPortal.Latched

/-- The configuration of the forwarder and its limits. -/
structure Options where
  outboundTopics : List String := []
  inboundTopics : List String := []
  maxParticipantFailures : Nat := 5
  maxStoredMessages : Nat := 32

def kMaxRpcPayloadBytes : Nat := 15 * 1024

/-- What `storeOutboundMessage` is called with. -/
structure Sample where
  topic : String
  type : String
  data : List UInt8
deriving DecidableEq, Repr

/-- The JSON object of an RPC request. -/
structure Request where
  topic : String
  msgType : String
  data : String
deriving DecidableEq, Repr

def Sample.request (sample : Sample) : Request :=
  ⟨sample.topic, sample.type, base64Encode sample.data⟩

/-- What the code takes from its libraries: `std::hash`, and the size of a dumped object. -/
structure Library where
  hashString : String → UInt64
  hashBytes : List UInt8 → UInt64
  dumpSize : Request → Nat

/-- The step of `contentHash` that combines the seed with another hash. -/
def mix (seed value : UInt64) : UInt64 :=
  seed ^^^ (value + (0x9e3779b97f4a7c15 : UInt64) + (seed <<< (6 : UInt64)) + (seed >>> (2 : UInt64)))

def Library.contentHash (library : Library) (sample : Sample) : UInt64 :=
  mix (mix (library.hashString sample.topic) (library.hashString sample.type))
    (library.hashBytes sample.data)

structure StoredMessage where
  hash : UInt64
  request : Request
deriving DecidableEq, Repr

def Library.message (library : Library) (sample : Sample) : StoredMessage :=
  ⟨library.contentHash sample, sample.request⟩

structure ParticipantState where
  deliveredVersion : Nat := 0
  consecutiveFailures : Nat := 0
deriving DecidableEq, Repr

/-- The members that `state_mutex_` protects. -/
structure LatchedTopicForwarder where
  messages : List StoredMessage := []
  messageHashes : List UInt64 := []
  version : Nat := 0
  participantStates : String → Option ParticipantState := fun _ => none

namespace LatchedTopicForwarder

/-- `message_hashes_.count(hash) > 0`. -/
def holds (forwarder : LatchedTopicForwarder) (hash : UInt64) : Bool :=
  forwarder.messageHashes.contains hash

/-- The loop that drops the oldest messages over the limit, with their hashes. -/
def evict (limit : Nat) : List StoredMessage → List UInt64 → List StoredMessage × List UInt64
  | [], hashes => ([], hashes)
  | front :: rest, hashes =>
      if limit < (front :: rest).length then
        evict limit rest (hashes.filter fun hash => hash ≠ front.hash)
      else (front :: rest, hashes)

theorem evict_messages (limit : Nat) (messages : List StoredMessage) (hashes : List UInt64) :
    (evict limit messages hashes).1 = messages.drop (messages.length - limit) := by
  induction messages generalizing hashes with
  | nil => simp [evict]
  | cons front rest ih =>
      by_cases full : limit < (front :: rest).length
      · have shorter : (front :: rest).length - limit = rest.length - limit + 1 := by
          simp only [List.length_cons] at full ⊢
          omega
        rw [evict, if_pos full, ih, shorter, List.drop_succ_cons]
      · rw [evict, if_neg full, Nat.sub_eq_zero_of_le (Nat.le_of_not_lt full), List.drop_zero]

/-- The second locked section of `storeOutboundMessage`, for a message that is not a
duplicate: new state re-arms every peer. -/
def store (options : Options) (forwarder : LatchedTopicForwarder) (message : StoredMessage) :
    LatchedTopicForwarder :=
  let kept := evict options.maxStoredMessages (forwarder.messages ++ [message])
    (message.hash :: forwarder.messageHashes)
  { messages := kept.1
    messageHashes := kept.2
    version := forwarder.version + 1
    participantStates := fun id =>
      (forwarder.participantStates id).map fun state => { state with consecutiveFailures := 0 } }

theorem store_messages (options : Options) (forwarder : LatchedTopicForwarder)
    (message : StoredMessage) :
    (forwarder.store options message).messages.reverse =
      (message :: forwarder.messages.reverse).take options.maxStoredMessages := by
  rw [store, evict_messages, ← List.take_reverse, List.reverse_append]
  rfl

/-- `reconcileRosterLocked`. -/
def reconcileRoster (forwarder : LatchedTopicForwarder) (identities : List String) :
    LatchedTopicForwarder :=
  { forwarder with
    participantStates := fun id =>
      if id ∈ identities then some ((forwarder.participantStates id).getD {}) else none }

@[simp] theorem reconcileRoster_messages (forwarder : LatchedTopicForwarder) (identities : List String) :
    (forwarder.reconcileRoster identities).messages = forwarder.messages := rfl

@[simp] theorem reconcileRoster_version (forwarder : LatchedTopicForwarder) (identities : List String) :
    (forwarder.reconcileRoster identities).version = forwarder.version := rfl

def enrolled (forwarder : LatchedTopicForwarder) (identities : List String) : List String :=
  identities.filter fun id => (forwarder.participantStates id).isNone

theorem reconcileRoster_cases {forwarder : LatchedTopicForwarder}
    {identities : List String} {id : String} {entry : ParticipantState}
    (found : (forwarder.reconcileRoster identities).participantStates id = some entry) :
    (entry = {} ∧ id ∈ forwarder.enrolled identities) ∨
      (forwarder.participantStates id = some entry ∧ id ∉ forwarder.enrolled identities) := by
  simp only [reconcileRoster] at found
  split at found
  · cases held : forwarder.participantStates id with
    | none =>
        rw [held] at found
        cases found
        exact .inl ⟨rfl, by simp [enrolled, held, ‹id ∈ identities›]⟩
    | some earlier =>
        rw [held] at found
        cases found
        exact .inr ⟨rfl, by simp [enrolled, held]⟩
  · cases found

def behind (forwarder : LatchedTopicForwarder) (state : ParticipantState) : Bool :=
  state.deliveredVersion < forwarder.version

def givenUp (options : Options) (state : ParticipantState) : Bool :=
  options.maxParticipantFailures ≤ state.consecutiveFailures

/-- The peers of the roster for which the condition holds. The roster is iterated only
right after its reconciliation, when its keys are the given identities. -/
def peers (forwarder : LatchedTopicForwarder) (identities : List String)
    (condition : ParticipantState → Bool) : List String :=
  identities.filter fun id => (forwarder.participantStates id).any condition

theorem mem_peers {forwarder : LatchedTopicForwarder} {identities : List String}
    {condition : ParticipantState → Bool} {id : String} :
    id ∈ forwarder.peers identities condition ↔
      id ∈ identities ∧ ∃ entry, forwarder.participantStates id = some entry ∧ condition entry = true := by
  simp [peers, Option.any_eq_true]

def targets (options : Options) (forwarder : LatchedTopicForwarder) (identities : List String) :
    List String :=
  forwarder.peers identities fun state => forwarder.behind state && !givenUp options state

def skipped (options : Options) (forwarder : LatchedTopicForwarder) (identities : List String) :
    List String :=
  forwarder.peers identities fun state => forwarder.behind state && givenUp options state

/-- The bookkeeping after the RPCs to one target: nothing happens if it left the roster. -/
def record (forwarder : LatchedTopicForwarder) (id : String) (version : Nat) (delivered : Bool) :
    LatchedTopicForwarder :=
  { forwarder with
    participantStates := Function.update forwarder.participantStates id <|
      (forwarder.participantStates id).map fun state =>
        if delivered then { deliveredVersion := version, consecutiveFailures := 0 }
        else { state with consecutiveFailures := state.consecutiveFailures + 1 } }

theorem record_cases {forwarder : LatchedTopicForwarder} {id other : String}
    {version : Nat} {delivered : Bool} {entry : ParticipantState}
    (found : (forwarder.record id version delivered).participantStates other = some entry) :
    (other ≠ id ∧ forwarder.participantStates other = some entry) ∨
      ∃ earlier, other = id ∧ forwarder.participantStates id = some earlier ∧
        entry = if delivered then { deliveredVersion := version, consecutiveFailures := 0 }
          else { earlier with consecutiveFailures := earlier.consecutiveFailures + 1 } := by
  simp only [record] at found
  by_cases same : other = id
  · rw [same, Function.update_self] at found
    obtain ⟨earlier, held, updated⟩ := Option.map_eq_some_iff.mp found
    exact .inr ⟨earlier, same, held, updated.symm⟩
  · rw [Function.update_of_ne same] at found
    exact .inl ⟨same, found⟩

end LatchedTopicForwarder

end RosPortal.Latched
