import RosPortal.Outbound.DataTopic

/-! The rate cap of an outbound data topic over the samples that arrive one after the
other. Times may jump back. -/

set_option autoImplicit false

namespace RosPortal.Outbound

open Schema

/-- A sample that reaches the critical section, with what its `ensureWriterLocked` meets
and whether it can be converted to JSON. -/
structure Arrival where
  time : Int
  attempt : WriterAttempt
  converts : Bool := true
deriving DecidableEq, Repr

namespace DataTopicState

def after (state : DataTopicState) (arrivals : List Arrival) : DataTopicState :=
  arrivals.foldl (fun state arrival => (state.enter arrival.time arrival.attempt).1) state

/-- The samples, each with the state that it meets. -/
def meetings (state : DataTopicState) : List Arrival → List (DataTopicState × Arrival)
  | [] => []
  | arrival :: arrivals =>
      (state, arrival) :: (state.enter arrival.time arrival.attempt).1.meetings arrivals

def passedTimes (state : DataTopicState) (arrivals : List Arrival) : List Int :=
  ((state.meetings arrivals).filter fun meeting => meeting.1.passes meeting.2.time).map fun meeting =>
    meeting.2.time

end DataTopicState

def Ordered (arrivals : List Arrival) : Prop := arrivals.Pairwise fun earlier later => earlier.time ≤ later.time

instance (arrivals : List Arrival) : Decidable (Ordered arrivals) := List.instDecidablePairwise arrivals

section Spacing

/-! Times that are at least a period apart. -/

theorem spaced_span {period limit first : Int} {rest : List Int}
    (spaced : (first :: rest).Pairwise fun earlier later => earlier + period ≤ later)
    (bounded : ∀ time ∈ first :: rest, time ≤ limit) : first + period * rest.length ≤ limit := by
  induction rest generalizing first with
  | nil => simpa using bounded first List.mem_cons_self
  | cons second rest ih =>
      obtain ⟨gaps, spacedRest⟩ := List.pairwise_cons.mp spaced
      have gap := gaps second List.mem_cons_self
      have span := ih spacedRest fun time member => bounded time (List.mem_cons_of_mem _ member)
      have longer : period * ((second :: rest).length : Int) = period + period * rest.length := by
        rw [List.length_cons, Int.natCast_add, Int.mul_add, Int.natCast_one, Int.mul_one, Int.add_comm]
      rw [longer]
      omega

theorem spaced_count {period start width : Int} {times : List Int} (positive : 0 < period) (wide : 0 ≤ width)
    (spaced : times.Pairwise fun earlier later => earlier + period ≤ later)
    (inside : ∀ time ∈ times, start ≤ time ∧ time ≤ start + width) :
    (times.length : Int) ≤ width / period + 1 := by
  cases times with
  | nil =>
      have quotient : 0 ≤ width / period := Int.ediv_nonneg wide (Int.le_of_lt positive)
      simp only [List.length_nil]
      omega
  | cons first rest =>
      have span := spaced_span spaced fun time member => (inside time member).2
      have begins := (inside first List.mem_cons_self).1
      have fits : (rest.length : Int) * period ≤ width := by
        rw [Int.mul_comm]
        omega
      have quotient := (Int.le_ediv_iff_mul_le positive).mpr fits
      rw [List.length_cons]
      omega

end Spacing

section Run

variable {state : DataTopicState} {minPeriod : Int} {arrival : Arrival} {arrivals : List Arrival}

@[simp] theorem after_nil : state.after [] = state := rfl

@[simp] theorem after_cons :
    state.after (arrival :: arrivals) = (state.enter arrival.time arrival.attempt).1.after arrivals := rfl

theorem meetings_append (state : DataTopicState) (first second : List Arrival) :
    state.meetings (first ++ second) = state.meetings first ++ (state.after first).meetings second := by
  induction first generalizing state with
  | nil => rfl
  | cons arrival first ih =>
      simp only [List.cons_append, DataTopicState.meetings, after_cons, ih]

@[simp] theorem after_minPeriod (state : DataTopicState) (arrivals : List Arrival) :
    (state.after arrivals).minPeriod = state.minPeriod := by
  induction arrivals generalizing state with
  | nil => rfl
  | cons arrival arrivals ih => rw [after_cons, ih, enter_minPeriod]

theorem passedTimes_pass (passed : state.passes arrival.time = true) :
    state.passedTimes (arrival :: arrivals) =
      arrival.time :: (state.enter arrival.time arrival.attempt).1.passedTimes arrivals := by
  simp [DataTopicState.passedTimes, DataTopicState.meetings, passed]

theorem passedTimes_drop (dropped : state.passes arrival.time = false) :
    state.passedTimes (arrival :: arrivals) =
      (state.enter arrival.time arrival.attempt).1.passedTimes arrivals := by
  simp [DataTopicState.passedTimes, DataTopicState.meetings, dropped]

/-- Nothing passes within a period of a time that neither the window nor a sample is before. -/
theorem passed_after_period (capped : state.minPeriod = some minPeriod) (positive : 0 < minPeriod)
    {start low : Int} (opened : state.lastForwardTime = some start) (after : low ≤ start)
    (later : ∀ arrival ∈ arrivals, low ≤ arrival.time) :
    ∀ time ∈ state.passedTimes arrivals, low + minPeriod ≤ time := by
  induction arrivals generalizing state start with
  | nil => exact nofun
  | cons arrival arrivals ih =>
      have notBefore := later arrival List.mem_cons_self
      have laterRest := fun other member => later other (List.mem_cons_of_mem arrival member)
      have cappedRest := (enter_minPeriod state arrival.time arrival.attempt).trans capped
      cases passed : state.passes arrival.time with
      | true =>
          have gone := (passes_iff capped positive opened).mp passed
          have reopened := (enter_lastForwardTime state arrival.time arrival.attempt).trans (rateCap_passed capped passed)
          rw [passedTimes_pass passed, List.forall_mem_cons]
          exact ⟨by omega, ih cappedRest reopened notBefore laterRest⟩
      | false =>
          have kept := (enter_lastForwardTime state arrival.time arrival.attempt).trans (rateCap_dropped passed opened)
          have notEarlier : low ≤ resetWindow start arrival.time := by
            unfold resetWindow
            split_ifs
            · exact notBefore
            · exact after
          rw [passedTimes_drop passed]
          exact ih cappedRest kept notEarlier laterRest

theorem passedTimes_spaced (capped : state.minPeriod = some minPeriod) (positive : 0 < minPeriod)
    (ordered : Ordered arrivals) :
    (state.passedTimes arrivals).Pairwise fun earlier later => earlier + minPeriod ≤ later := by
  induction arrivals generalizing state with
  | nil => exact .nil
  | cons arrival arrivals ih =>
      obtain ⟨notBefore, orderedRest⟩ := List.pairwise_cons.mp ordered
      have cappedRest := (enter_minPeriod state arrival.time arrival.attempt).trans capped
      cases passed : state.passes arrival.time with
      | true =>
          have reopened := (enter_lastForwardTime state arrival.time arrival.attempt).trans (rateCap_passed capped passed)
          rw [passedTimes_pass passed]
          exact .cons (passed_after_period cappedRest positive reopened (Int.le_refl _) notBefore)
            (ih cappedRest orderedRest)
      | false =>
          rw [passedTimes_drop passed]
          exact ih cappedRest orderedRest

/-- Samples within a period of the window leave it where it is. -/
theorem after_waiting (capped : state.minPeriod = some minPeriod) (positive : 0 < minPeriod) {start : Int}
    (opened : state.lastForwardTime = some start)
    (waiting : ∀ arrival ∈ arrivals, start ≤ arrival.time ∧ arrival.time < start + minPeriod) :
    (state.after arrivals).lastForwardTime = some start := by
  induction arrivals generalizing state with
  | nil => exact opened
  | cons arrival arrivals ih =>
      obtain ⟨notBefore, early⟩ := waiting arrival List.mem_cons_self
      have dropped : state.passes arrival.time = false := by
        rw [Bool.eq_false_iff, Ne, passes_iff capped positive opened]
        omega
      have same : resetWindow start arrival.time = start := if_neg (by omega)
      have kept := (enter_lastForwardTime state arrival.time arrival.attempt).trans (rateCap_dropped dropped opened)
      rw [same] at kept
      exact ih ((enter_minPeriod state arrival.time arrival.attempt).trans capped) kept fun other member =>
        waiting other (List.mem_cons_of_mem arrival member)

/-- No sample passes before the deadline, and the first at or after it does. -/
def FirstPassesAt (state : DataTopicState) (arrivals : List Arrival) (deadline : Int) : Prop :=
  (∀ time ∈ state.passedTimes arrivals, deadline ≤ time) ∧
    ∀ early arrival rest, arrivals = early ++ arrival :: rest → (∀ other ∈ early, other.time < deadline) →
      deadline ≤ arrival.time → (state.after early).passes arrival.time = true

/-- The next sample to pass is the first that comes a period after the window, which a jump
back behind its start has reset. -/
theorem firstPassesAt_window (capped : state.minPeriod = some minPeriod) (positive : 0 < minPeriod) {start : Int}
    (opened : state.lastForwardTime = some start) (ordered : Ordered (arrival :: arrivals)) :
    FirstPassesAt state (arrival :: arrivals) (resetWindow start arrival.time + minPeriod) := by
  obtain ⟨notBefore, _⟩ := List.pairwise_cons.mp ordered
  have low : resetWindow start arrival.time ≤ start ∧ resetWindow start arrival.time ≤ arrival.time := by
    unfold resetWindow
    split_ifs <;> omega
  refine ⟨passed_after_period capped positive opened low.1 ?_, ?_⟩
  · rw [List.forall_mem_cons]
    exact ⟨low.2, fun other member => Int.le_trans low.2 (notBefore other member)⟩
  · intro early passing rest split soon due
    cases early with
    | nil =>
        cases split
        rw [after_nil, passes_iff capped positive opened]
        unfold resetWindow at due
        split_ifs at due <;> omega
    | cons first early =>
        cases split
        obtain ⟨soonFirst, soonRest⟩ := List.forall_mem_cons.mp soon
        have dropped : state.passes arrival.time = false := by
          rw [Bool.eq_false_iff, Ne, passes_iff capped positive opened]
          omega
        have kept := (enter_lastForwardTime state arrival.time arrival.attempt).trans (rateCap_dropped dropped opened)
        have cappedRest := (enter_minPeriod state arrival.time arrival.attempt).trans capped
        have waits : ∀ other ∈ early, resetWindow start arrival.time ≤ other.time ∧
            other.time < resetWindow start arrival.time + minPeriod := by
          intro other member
          exact ⟨Int.le_trans low.2 (notBefore other (List.mem_append_left _ member)), soonRest other member⟩
        have waited := after_waiting cappedRest positive kept waits
        rw [after_cons, passes_iff ((after_minPeriod _ _).trans cappedRest) positive waited]
        exact due

end Run

/-- Over a stretch without a jump the cap keeps samples a period apart. A jump back behind
the start of the window starts it anew, one that stays after its start does not touch it. -/
theorem rateCap_caps (state : DataTopicState) {minPeriod : Int} (capped : state.minPeriod = some minPeriod)
    (positive : 0 < minPeriod) (earlier : List Arrival) :
    (∀ stretch, Ordered stretch →
      ((state.after earlier).passedTimes stretch).Pairwise (fun first second => first + minPeriod ≤ second) ∧
      ∀ start width : Int, 0 ≤ width →
        ((((state.after earlier).passedTimes stretch).filter fun time =>
          start ≤ time ∧ time ≤ start + width).length : Int) ≤ width / minPeriod + 1) ∧
    ∀ start, (state.after earlier).lastForwardTime = some start →
      ∀ arrival later, Ordered (arrival :: later) →
        (arrival.time < start →
          FirstPassesAt (state.after earlier) (arrival :: later) (arrival.time + minPeriod)) ∧
        (start ≤ arrival.time →
          FirstPassesAt (state.after earlier) (arrival :: later) (start + minPeriod)) := by
  have cappedAfter := (after_minPeriod state earlier).trans capped
  constructor
  · intro stretch ordered
    have spaced := passedTimes_spaced cappedAfter positive ordered
    refine ⟨spaced, ?_⟩
    intro start width wide
    have inside : ∀ time ∈ ((state.after earlier).passedTimes stretch).filter fun time =>
        start ≤ time ∧ time ≤ start + width, start ≤ time ∧ time ≤ start + width := by
      intro time member
      exact of_decide_eq_true (List.mem_filter.mp member).2
    exact spaced_count positive wide (spaced.filter _) inside
  · intro start opened arrival later ordered
    have next := firstPassesAt_window cappedAfter positive opened ordered
    refine ⟨fun back => ?_, fun ahead => ?_⟩
    · rwa [resetWindow, if_pos back] at next
    · rwa [resetWindow, if_neg (Int.not_lt.mpr ahead)] at next

section Jumps

def writable (time : Int) : Arrival where
  time
  attempt := ⟨true, some ⟨"std_msgs/msg/String", .ros2Msg⟩, .writer 0⟩

/-- The window started at 5, time jumps back to 2, and the next sample to pass is at 12. -/
theorem rateCap_caps_jump :
    FirstPassesAt (DataTopicState.after { minPeriod := some 10 } [writable 5]) [writable 2, writable 12] (2 + 10) :=
  ((rateCap_caps { minPeriod := some 10 } rfl (by decide) [writable 5]).2 5 (by decide) (writable 2) [writable 12]
    (by decide)).1 (by decide)

/-- Time jumps back from 8 to 3, but not behind the start of the window. The sample at 10
passes, a period after the one at 0 but not after the jump. -/
theorem small_jump_keeps_window :
    DataTopicState.passedTimes { minPeriod := some 10 } ([writable 0, writable 8] ++ [writable 3, writable 10]) =
        [0, 10] ∧
      (writable 3).time < (writable 8).time ∧ Ordered [writable 3, writable 10] ∧
      (writable 10).time < (writable 3).time + 10 := by
  decide

end Jumps

end RosPortal.Outbound
