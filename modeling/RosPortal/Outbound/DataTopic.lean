import RosPortal.Schema.Manager

/-! The state of an outbound data topic, and the critical section of its callback, which
caps the rate and makes the writer. Time is in nanoseconds. -/

set_option autoImplicit false

namespace RosPortal.Outbound

open Schema

/-- `writer` tells which of the writers of the session it is. The cap is on where the
period is set. -/
structure DataTopicState where
  writer : Option Nat := none
  encoding : OutboundEncoding := .ros2Msg
  minPeriod : Option Int := none
  lastForwardTime : Option Int := none
deriving DecidableEq, Repr

/-- What `publish_data_track` returns: an error, a writer without `try_push`, or a writer. -/
inductive PublishedTrack where
  | failed
  | invalid
  | writer (writer : Nat)
deriving DecidableEq, Repr

/-- What an `ensureWriterLocked` that has to make the writer meets. -/
structure WriterAttempt where
  roomAvailable : Bool
  schema : Option DataTrackSchemaId
  published : PublishedTrack
deriving DecidableEq, Repr

/-- Where the window starts for a sample: a jump back in time resets it. -/
def resetWindow (lastForwardTime now : Int) : Int := if now < lastForwardTime then now else lastForwardTime

inductive Admission where
  | capped
  | unwritable
  | admitted (writer : Nat) (encoding : OutboundEncoding)
deriving DecidableEq, Repr

namespace DataTopicState

variable (state : DataTopicState)

/-- The rate cap: whether the sample passes, and the window it leaves. -/
def rateCap (now : Int) : DataTopicState × Bool :=
  match state.minPeriod with
  | none => (state, true)
  | some minPeriod =>
      match state.lastForwardTime with
      | none => ({ state with lastForwardTime := some now }, true)
      | some lastForwardTime =>
          let start := resetWindow lastForwardTime now
          if now - start < minPeriod then ({ state with lastForwardTime := some start }, false)
          else ({ state with lastForwardTime := some now }, true)

def ensureWriterLocked (attempt : WriterAttempt) : DataTopicState × Bool :=
  match state.writer with
  | some _ => (state, true)
  | none =>
      if !attempt.roomAvailable then (state, false)
      else
        match attempt.schema, attempt.published with
        | some _, .writer writer => ({ state with writer := some writer }, true)
        | _, _ => (state, false)

/-- The critical section of the callback. -/
def enter (now : Int) (attempt : WriterAttempt) : DataTopicState × Admission :=
  let windowed := state.rateCap now
  if !windowed.2 then (windowed.1, .capped)
  else
    let ensured := windowed.1.ensureWriterLocked attempt
    if !ensured.2 then (ensured.1, .unwritable)
    else
      match ensured.1.writer with
      | some writer => (ensured.1, .admitted writer ensured.1.encoding)
      | none => (ensured.1, .unwritable)

def passes (now : Int) : Bool := (state.rateCap now).2

end DataTopicState

section Cap

variable {state : DataTopicState} {minPeriod now : Int}

theorem rateCap_window (state : DataTopicState) (now : Int) :
    ∃ lastForwardTime, (state.rateCap now).1 = { state with lastForwardTime } := by
  unfold DataTopicState.rateCap
  split
  · exact ⟨state.lastForwardTime, rfl⟩
  · split
    · exact ⟨some now, rfl⟩
    next opened _ =>
      dsimp only
      split_ifs
      · exact ⟨some (resetWindow opened now), rfl⟩
      · exact ⟨some now, rfl⟩

@[simp] theorem rateCap_minPeriod : (state.rateCap now).1.minPeriod = state.minPeriod := by
  obtain ⟨_, windowed⟩ := rateCap_window state now
  rw [windowed]

@[simp] theorem rateCap_encoding : (state.rateCap now).1.encoding = state.encoding := by
  obtain ⟨_, windowed⟩ := rateCap_window state now
  rw [windowed]

theorem ensureWriterLocked_state (state : DataTopicState) (attempt : WriterAttempt) :
    ∃ writer, (state.ensureWriterLocked attempt).1 = { state with writer } := by
  unfold DataTopicState.ensureWriterLocked
  split
  · exact ⟨state.writer, rfl⟩
  · split
    · exact ⟨state.writer, rfl⟩
    · split
      next writer _ _ => exact ⟨some writer, rfl⟩
      · exact ⟨state.writer, rfl⟩

@[simp] theorem ensureWriterLocked_encoding (attempt : WriterAttempt) :
    (state.ensureWriterLocked attempt).1.encoding = state.encoding := by
  obtain ⟨_, ensured⟩ := ensureWriterLocked_state state attempt
  rw [ensured]

theorem ensureWriterLocked_writer {attempt : WriterAttempt}
    (ensured : (state.ensureWriterLocked attempt).2 = true) :
    ∃ writer, (state.ensureWriterLocked attempt).1.writer = some writer := by
  unfold DataTopicState.ensureWriterLocked at ensured ⊢
  cases known : state.writer with
  | some writer => exact ⟨writer, known⟩
  | none =>
      simp only [known] at ensured ⊢
      cases room : attempt.roomAvailable with
      | false => simp [room] at ensured
      | true =>
          simp only [room, Bool.not_true, Bool.false_eq_true, if_false] at ensured ⊢
          split at ensured
          next writer named published => exact ⟨writer, rfl⟩
          · cases ensured

/-- All that the critical section does, by its three outcomes. -/
theorem enter_cases (state : DataTopicState) (now : Int) (attempt : WriterAttempt) :
    (state.passes now = false ∧ state.enter now attempt = ((state.rateCap now).1, .capped)) ∨
    (state.passes now = true ∧ ((state.rateCap now).1.ensureWriterLocked attempt).2 = false ∧
      state.enter now attempt = (((state.rateCap now).1.ensureWriterLocked attempt).1, .unwritable)) ∨
    ∃ writer, state.passes now = true ∧ ((state.rateCap now).1.ensureWriterLocked attempt).2 = true ∧
      ((state.rateCap now).1.ensureWriterLocked attempt).1.writer = some writer ∧
      state.enter now attempt =
        (((state.rateCap now).1.ensureWriterLocked attempt).1, .admitted writer state.encoding) := by
  cases passed : (state.rateCap now).2 with
  | false => exact .inl ⟨passed, by simp [DataTopicState.enter, passed]⟩
  | true =>
      refine .inr ?_
      cases ensured : ((state.rateCap now).1.ensureWriterLocked attempt).2 with
      | false => exact .inl ⟨passed, rfl, by simp [DataTopicState.enter, passed, ensured]⟩
      | true =>
          obtain ⟨writer, made⟩ := ensureWriterLocked_writer ensured
          exact .inr ⟨writer, passed, rfl, made, by simp [DataTopicState.enter, passed, ensured, made]⟩

theorem enter_state (state : DataTopicState) (now : Int) (attempt : WriterAttempt) :
    ∃ writer, (state.enter now attempt).1 = { (state.rateCap now).1 with writer } := by
  obtain ⟨writer, ensured⟩ := ensureWriterLocked_state (state.rateCap now).1 attempt
  rcases enter_cases state now attempt with ⟨_, same⟩ | ⟨_, _, same⟩ | ⟨_, _, _, _, same⟩
  · exact ⟨(state.rateCap now).1.writer, by rw [same]⟩
  · exact ⟨writer, by rw [same, ensured]⟩
  · exact ⟨writer, by rw [same, ensured]⟩

@[simp] theorem enter_lastForwardTime (state : DataTopicState) (now : Int) (attempt : WriterAttempt) :
    (state.enter now attempt).1.lastForwardTime = (state.rateCap now).1.lastForwardTime := by
  obtain ⟨_, entered⟩ := enter_state state now attempt
  rw [entered]

@[simp] theorem enter_minPeriod (state : DataTopicState) (now : Int) (attempt : WriterAttempt) :
    (state.enter now attempt).1.minPeriod = state.minPeriod := by
  obtain ⟨_, entered⟩ := enter_state state now attempt
  rw [entered]
  exact rateCap_minPeriod

end Cap

section Window

variable {state : DataTopicState} {minPeriod now : Int}

theorem passes_first (capped : state.minPeriod = some minPeriod) (fresh : state.lastForwardTime = none) :
    state.passes now = true := by
  simp [DataTopicState.passes, DataTopicState.rateCap, capped, fresh]

/-- A sample passes once a period has gone by since the window started. -/
theorem passes_iff (capped : state.minPeriod = some minPeriod) (positive : 0 < minPeriod) {start : Int}
    (opened : state.lastForwardTime = some start) : state.passes now = true ↔ start + minPeriod ≤ now := by
  simp only [DataTopicState.passes, DataTopicState.rateCap, capped, opened, resetWindow]
  split_ifs with back early early
  · simp only [false_iff]
    omega
  · omega
  · simp only [false_iff]
    omega
  · simp only [true_iff]
    omega

theorem rateCap_passed (capped : state.minPeriod = some minPeriod) (passed : state.passes now = true) :
    (state.rateCap now).1.lastForwardTime = some now := by
  simp only [DataTopicState.passes, DataTopicState.rateCap, capped] at passed ⊢
  cases opened : state.lastForwardTime with
  | none => rfl
  | some start =>
      simp only [opened] at passed ⊢
      split_ifs at passed ⊢
      rfl

/-- A sample that is dropped leaves the window, or moves it back to where time has jumped. -/
theorem rateCap_dropped (dropped : state.passes now = false) {start : Int}
    (opened : state.lastForwardTime = some start) :
    (state.rateCap now).1.lastForwardTime = some (resetWindow start now) := by
  simp only [DataTopicState.passes, DataTopicState.rateCap, opened] at dropped ⊢
  cases capped : state.minPeriod with
  | none => simp [capped] at dropped
  | some minPeriod =>
      simp only [capped] at dropped ⊢
      split_ifs at dropped ⊢
      rfl

end Window

end RosPortal.Outbound
