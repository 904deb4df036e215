import Mathlib.Data.List.Basic
import RosPortal.Introspection.RoundTrip
import RosPortal.Schema.Agreement

/-! The reader of an inbound data track: which frames it publishes, what it counts as
failures, and what ends its loop. -/

set_option autoImplicit false

namespace RosPortal.Inbound.DataTrackReader

open JsonText Introspection Schema

/-- One turn of the loop: the stop flag, the frame that `read` delivers, whether the room is
available, and whether a `publish` of the frame throws. -/
structure Turn where
  stop : Bool := false
  payload : Bytes
  available : Bool := true
  throws : Bool := false
deriving Repr

/-- A stream is the turns until `read` returns false; `read` and `terminalError` may be null. -/
structure RemoteDataTrackStream where
  read : Option (List Turn)
  terminalError : Option (Option Bytes) := none

structure InboundDataTrackState where
  rosTopicType : String
  frameEncoding : DataTrackFrameEncoding := .cdr
  stream : Option RemoteDataTrackStream

def InboundDataTrackState.turns (state : InboundDataTrackState) : List Turn :=
  (state.stream.bind RemoteDataTrackStream.read).getD []

def InboundDataTrackState.terminalError (state : InboundDataTrackState) : Option Bytes :=
  (state.stream.bind RemoteDataTrackStream.terminalError).join

/-- What a reader has done: its calls of `publish`, with whether they threw, and the failures
it has counted. -/
structure Reading where
  publishes : List (Bytes × Bool) := []
  inboundFailures : Nat := 0
deriving DecidableEq, Repr

namespace Reading

variable (reading : Reading)

def countFailure : Reading := { reading with inboundFailures := reading.inboundFailures + 1 }

def publish (message : Bytes) (throws : Bool) : Reading :=
  { publishes := reading.publishes ++ [(message, throws)]
    inboundFailures := reading.inboundFailures + if throws then 1 else 0 }

end Reading

inductive Ending where
  | looping
  | readFalse
  | stopSet
  | returned
deriving DecidableEq, Repr

section Loop

variable (codec : Codec) (serializer : JsonSerializer) (state : InboundDataTrackState)

/-- The body of the loop, for a frame that has been read. -/
def readFrame (reading : Reading) (turn : Turn) : Reading × Ending :=
  if turn.available = false then (reading, .looping)
  else
    match inboundFrame codec serializer state.frameEncoding state.rosTopicType turn.payload with
    | .dropped _ => (reading.countFailure, .looping)
    | .stopped => (reading.countFailure, .returned)
    | .published message => (reading.publish message turn.throws, .looping)

def readFrames (reading : Reading) : List Turn → Reading × Ending
  | [] => (reading, .readFalse)
  | turn :: turns =>
      if turn.stop then (reading, .stopSet)
      else
        match readFrame codec serializer state reading turn with
        | (next, .looping) => readFrames next turns
        | ended => ended

/-- The error with which the stream ended is counted, unless the reader returned before. -/
def readInboundDataTrack : Reading × Ending :=
  let outcome := readFrames codec serializer state {} state.turns
  if outcome.2 ≠ .returned ∧ state.terminalError.isSome then (outcome.1.countFailure, outcome.2)
  else outcome

end Loop

/-! What the reader is for: bad frames are dropped, and nothing else is. -/

section Purpose

variable (codec : Codec) (serializer : JsonSerializer) (state : InboundDataTrackState)

def message (payload : Bytes) : Option Bytes :=
  if state.frameEncoding = .json then
    (serializedMessageFromJson codec serializer state.rosTopicType payload).toOption
  else if payload = [] then none
  else some payload

def malformed (turn : Turn) : Bool := (message codec serializer state turn.payload).isNone

def publication (turn : Turn) : Option (Bytes × Bool) :=
  (message codec serializer state turn.payload).map fun published => (published, turn.throws)

def publishFails (turn : Turn) : Bool := !malformed codec serializer state turn && turn.throws

def readAvailable (turns : List Turn) : List Turn :=
  (turns.takeWhile fun turn => !turn.stop).filter Turn.available

def frameFailures (turns : List Turn) : Nat :=
  (readAvailable turns).countP (malformed codec serializer state) +
    (readAvailable turns).countP (publishFails codec serializer state)

/-- All well-formed frames are published, in the order of the stream; all others and all failed
calls of `publish` are counted once, with the error of the stream if there is one; and only the
end of the stream or `stop` ends the loop. -/
structure DropsBadFramesOnly (outcome : Reading × Ending) : Prop where
  publishes : outcome.1.publishes =
    (readAvailable state.turns).filterMap (publication codec serializer state)
  failures : outcome.1.inboundFailures =
    frameFailures codec serializer state state.turns + if state.terminalError.isSome then 1 else 0
  ends : outcome.2 = .readFalse ∨ outcome.2 = .stopSet

/-- No frame of a track that is not JSON is empty when it is read while the room is available. -/
def NoEmptyFrame : Prop :=
  state.frameEncoding = .json ∨ ∀ turn ∈ readAvailable state.turns, turn.payload ≠ []

end Purpose

section Turns

variable {codec : Codec} {serializer : JsonSerializer} {state : InboundDataTrackState}

/-- What a frame does to the record of a reader that goes on after it. -/
def absorb (codec : Codec) (serializer : JsonSerializer) (state : InboundDataTrackState)
    (reading : Reading) (turn : Turn) : Reading :=
  match message codec serializer state turn.payload with
  | some published => reading.publish published turn.throws
  | none => reading.countFailure

theorem publishes_foldl (codec : Codec) (serializer : JsonSerializer) (state : InboundDataTrackState)
    (reading : Reading) (turns : List Turn) :
    (turns.foldl (absorb codec serializer state) reading).publishes =
      reading.publishes ++ turns.filterMap (publication codec serializer state) := by
  induction turns generalizing reading with
  | nil => simp
  | cons turn turns ih =>
      rw [List.foldl_cons, ih, List.filterMap_cons]
      cases formed : message codec serializer state turn.payload <;>
        simp [absorb, publication, formed, Reading.publish, Reading.countFailure]

theorem inboundFailures_foldl (codec : Codec) (serializer : JsonSerializer) (state : InboundDataTrackState)
    (reading : Reading) (turns : List Turn) :
    (turns.foldl (absorb codec serializer state) reading).inboundFailures =
      reading.inboundFailures + (turns.countP (malformed codec serializer state) +
        turns.countP (publishFails codec serializer state)) := by
  induction turns generalizing reading with
  | nil => simp
  | cons turn turns ih =>
      rw [List.foldl_cons, ih, List.countP_cons, List.countP_cons]
      cases formed : message codec serializer state turn.payload with
      | none =>
          have bad : malformed codec serializer state turn = true := by simp [malformed, formed]
          simp only [absorb, formed, Reading.countFailure, publishFails, bad]
          simp only [Bool.not_true, Bool.false_and, if_true, Bool.false_eq_true, if_false]
          omega
      | some published =>
          have good : malformed codec serializer state turn = false := by simp [malformed, formed]
          simp only [absorb, formed, Reading.publish, publishFails, good]
          cases turn.throws with
          | false => simp
          | true =>
              simp only [Bool.not_false, Bool.true_and, if_true, Bool.false_eq_true, if_false]
              omega

theorem inboundFrame_of_other (other : state.frameEncoding ≠ .json) (payload : Bytes) :
    inboundFrame codec serializer state.frameEncoding state.rosTopicType payload =
      if payload = [] then .stopped else .published payload := by
  simp [inboundFrame, decodesJson, other]

/-- A frame that does not end the loop is published if it is well formed, and counted otherwise. -/
theorem readFrame_of_available (reading : Reading) {turn : Turn} (available : turn.available = true)
    (whole : state.frameEncoding = .json ∨ turn.payload ≠ []) :
    readFrame codec serializer state reading turn =
      (absorb codec serializer state reading turn, .looping) := by
  by_cases json : state.frameEncoding = .json
  · have decodes : decodesJson DataTrackFrameEncoding.json = true := rfl
    simp only [readFrame, available, inboundFrame, json, decodes, absorb, message, if_true]
    cases serializedMessageFromJson codec serializer state.rosTopicType turn.payload <;> rfl
  · have content : turn.payload ≠ [] := whole.resolve_left json
    simp [readFrame, available, inboundFrame_of_other json, absorb, message, json, content]

theorem readFrame_empty (reading : Reading) {turn : Turn} (available : turn.available = true)
    (other : state.frameEncoding ≠ .json) (empty : turn.payload = []) :
    readFrame codec serializer state reading turn = (reading.countFailure, .returned) := by
  simp [readFrame, available, inboundFrame_of_other other, empty]

theorem readAvailable_cons_stop {turn : Turn} (stop : turn.stop = true) (turns : List Turn) :
    readAvailable (turn :: turns) = [] := by
  simp [readAvailable, stop]

theorem readAvailable_cons_skip {turn : Turn} (stop : turn.stop = false)
    (unavailable : turn.available = false) (turns : List Turn) :
    readAvailable (turn :: turns) = readAvailable turns := by
  simp [readAvailable, stop, unavailable]

theorem readAvailable_cons {turn : Turn} (stop : turn.stop = false) (available : turn.available = true)
    (turns : List Turn) : readAvailable (turn :: turns) = turn :: readAvailable turns := by
  simp [readAvailable, stop, available]

end Turns

section Loop

variable {codec : Codec} {serializer : JsonSerializer} {state : InboundDataTrackState}

/-- Without empty frames the loop goes through all turns up to the first with the stop flag. -/
theorem readFrames_of_whole (codec : Codec) (serializer : JsonSerializer) (reading : Reading)
    (turns : List Turn)
    (whole : state.frameEncoding = .json ∨ ∀ turn ∈ readAvailable turns, turn.payload ≠ []) :
    ∃ ending, (ending = .readFalse ∨ ending = .stopSet) ∧
      readFrames codec serializer state reading turns =
        ((readAvailable turns).foldl (absorb codec serializer state) reading, ending) := by
  induction turns generalizing reading with
  | nil => exact ⟨.readFalse, .inl rfl, rfl⟩
  | cons turn turns ih =>
      cases stop : turn.stop with
      | true =>
          refine ⟨.stopSet, .inr rfl, ?_⟩
          simp [readFrames, stop, readAvailable_cons_stop stop]
      | false =>
          cases available : turn.available with
          | false =>
              rw [readAvailable_cons_skip stop available] at whole ⊢
              have step : readFrame codec serializer state reading turn = (reading, .looping) := by
                simp [readFrame, available]
              simpa [readFrames, stop, step] using ih reading whole
          | true =>
              rw [readAvailable_cons stop available] at whole ⊢
              have first : state.frameEncoding = .json ∨ turn.payload ≠ [] :=
                whole.imp_right fun all => all turn List.mem_cons_self
              have rest := whole.imp_right fun all later member =>
                all later (List.mem_cons_of_mem _ member)
              simpa [readFrames, stop, readFrame_of_available reading available first]
                using ih (absorb codec serializer state reading turn) rest

theorem readFrames_of_empty (codec : Codec) (serializer : JsonSerializer)
    (other : state.frameEncoding ≠ .json) (reading : Reading)
    {turns : List Turn} {empty : Turn} (read : empty ∈ readAvailable turns) (nothing : empty.payload = []) :
    (readFrames codec serializer state reading turns).2 = .returned := by
  induction turns generalizing reading with
  | nil => simp [readAvailable] at read
  | cons turn turns ih =>
      cases stop : turn.stop with
      | true => simp [readAvailable_cons_stop stop] at read
      | false =>
          cases available : turn.available with
          | false =>
              rw [readAvailable_cons_skip stop available] at read
              have step : readFrame codec serializer state reading turn = (reading, .looping) := by
                simp [readFrame, available]
              simpa [readFrames, stop, step] using ih reading read
          | true =>
              by_cases first : turn.payload = []
              · simp [readFrames, stop, readFrame_empty reading available other first]
              · rw [readAvailable_cons stop available] at read
                have later : empty ∈ readAvailable turns := by
                  rcases List.mem_cons.mp read with same | later
                  · exact absurd (same ▸ nothing) first
                  · exact later
                simpa [readFrames, stop, readFrame_of_available reading available (.inr first)]
                  using ih (absorb codec serializer state reading turn) later

end Loop

theorem ending_of_readInboundDataTrack (codec : Codec) (serializer : JsonSerializer)
    (state : InboundDataTrackState) :
    (readInboundDataTrack codec serializer state).2 =
      (readFrames codec serializer state {} state.turns).2 := by
  unfold readInboundDataTrack
  dsimp only
  split_ifs <;> rfl

/-- A reader keeps to its purpose exactly when no empty frame reaches it. -/
theorem readInboundDataTrack_drops_bad_frames_only_iff (codec : Codec) (serializer : JsonSerializer)
    (state : InboundDataTrackState) :
    DropsBadFramesOnly codec serializer state (readInboundDataTrack codec serializer state) ↔
      NoEmptyFrame state := by
  constructor
  · intro sound
    by_contra empty
    simp only [NoEmptyFrame, not_or, not_forall, not_not] at empty
    obtain ⟨other, turn, read, nothing⟩ := empty
    have returned := readFrames_of_empty codec serializer other {} read nothing
    have ends := sound.ends
    rw [ending_of_readInboundDataTrack, returned] at ends
    simp at ends
  · intro whole
    obtain ⟨ending, ends, loop⟩ :=
      readFrames_of_whole codec serializer {} state.turns whole
    have goesOn : ending ≠ .returned := by
      rcases ends with rfl | rfl <;> simp
    have publishes := publishes_foldl codec serializer state {} (readAvailable state.turns)
    have failures := inboundFailures_foldl codec serializer state {} (readAvailable state.turns)
    simp only [List.nil_append, Nat.zero_add] at publishes failures
    simp only [readInboundDataTrack, loop]
    by_cases error : state.terminalError.isSome = true
    · rw [if_pos ⟨goesOn, error⟩]
      refine ⟨publishes, ?_, ends⟩
      simp [Reading.countFailure, failures, frameFailures, error]
    · rw [if_neg fun both => error both.2]
      refine ⟨publishes, ?_, ends⟩
      simp [failures, frameFailures, error]

/-- After an empty frame the next frame of the track is not published. -/
theorem empty_frame_silences_track :
    ¬ ∀ (codec : Codec) (serializer : JsonSerializer) (state : InboundDataTrackState),
      DropsBadFramesOnly codec serializer state (readInboundDataTrack codec serializer state) := by
  intro sound
  have silenced := (sound stringCodec stringSerializer
    { rosTopicType := "std_msgs/msg/String"
      stream := some { read := some [{ payload := [] }, { payload := [0, 1, 0, 0] }] } }).publishes
  exact absurd silenced (by decide)

end RosPortal.Inbound.DataTrackReader
