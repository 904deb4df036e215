import RosPortal.Connection.Attempts
import RosPortal.Connection.Wakeups

/-! Waiters across sessions. A close is a boolean that the next attempt clears
again, so a notified waiter that is slow to re-check misses it. -/

set_option autoImplicit false

namespace RosPortal.Connection

open Interleaving

/-- A blocked waiter that a close has run past. -/
def Control.passedBy (closes : Nat) : Control → Bool
  | .waitBlocked _ _ closesSeen => closesSeen < closes
  | _ => false

def Control.stale (sessions : Nat) : Control → Bool
  | .waitEnter began | .waitBlocked began _ _ => began ≠ sessions
  | _ => false

/-- The call is about to take the closed setting of the barrier back. -/
def Control.reopening : Control → Bool
  | .pollBeginSession _ | .disable | .enable => true
  | _ => false

/-- The closed setting is taken back after every waiter it ran past has returned, and
operations are enabled after every call of an earlier attempt has returned. -/
def ReopenGuarded (config : Config) (label : Nat × Choice) : Prop :=
  ∀ control ∈ config.threads[label.1]?,
    (control.reopening = true → config.Nowhere (Control.passedBy config.shared.history.closes)) ∧
    (control = .enable → config.Nowhere (Control.stale config.shared.history.sessions))

instance (config : Config) (label : Nat × Choice) : Decidable (ReopenGuarded config label) :=
  inferInstanceAs (Decidable (∀ control ∈ config.threads[label.1]?, (_ → _) ∧ (_ → _)))

structure WaitReturn.Regular (returned : WaitReturn) : Prop where
  closed : returned.closedWhileBlocked = true → returned.result = false
  current : returned.result = true → returned.returnedIn = returned.began

/-- Every return is regular, and a waiter that a close ran past returns false as soon
as it re-checks, for which it has been or will be notified. -/
structure WaitsRegular (config : Config) : Prop where
  returns : ∀ returned ∈ config.shared.history.returns, returned.Regular
  released : ∀ thread began ticket closesSeen : Nat,
    config.threads[thread]? = some (.waitBlocked began ticket closesSeen) →
    closesSeen < config.shared.history.closes →
    config.shared.manager.released = true ∧ config.shared.manager.operationsEnabled = false ∧
      (ticket < config.shared.manager.notifications ∨ config.Somewhere Control.notifying)

/-- A close that ran past a waiter still stands, and enabled operations are those of
the attempt in which every call in progress began. -/
structure WaiterInvariant (config : Config) : Prop where
  passed : config.Somewhere (Control.passedBy config.shared.history.closes) →
    config.shared.manager.operationsEnabled = false ∧ config.shared.manager.sessionClosed = true
  current : config.shared.manager.operationsEnabled = true →
    config.Nowhere (Control.stale config.shared.history.sessions)
  returns : ∀ returned ∈ config.shared.history.returns, returned.Regular

theorem waiterInvariant_initial (threads : Nat) : WaiterInvariant (initial threads) :=
  ⟨fun _ => ⟨rfl, rfl⟩, (nomatch ·), by simp [initial]⟩

section Transition

variable {shared shared' : Shared} {before after : Control} {choice : Choice}

/-- Closes are counted by the updates that close, and the barrier stays as it is
except where it is closed or the closed setting is taken back. -/
theorem Transition.barrier_cases (transition : Transition shared before choice shared' after) :
    (shared'.manager.operationsEnabled = false ∧ shared'.manager.sessionClosed = true) ∨
    before.reopening = true ∨
    (shared'.history.closes = shared.history.closes ∧
      shared'.manager.operationsEnabled = shared.manager.operationsEnabled ∧
      shared'.manager.sessionClosed = shared.manager.sessionClosed) := by
  cases transition with
  | pollClosed | closed | stopClosed => exact .inl ⟨rfl, rfl⟩
  | pollBegun | disabled | enabled => exact .inr (.inl rfl)
  | _ => exact .inr (.inr ⟨rfl, rfl, rfl⟩)

theorem Transition.reopening_closes (transition : Transition shared before choice shared' after)
    (reopening : before.reopening = true) : shared'.history.closes = shared.history.closes := by
  cases transition with
  | pollBegun | disabled | enabled => rfl
  | _ => cases reopening

/-- A waiter that blocks after this step was not run past by a close, unless it was before. -/
theorem Transition.passedBy_before (transition : Transition shared before choice shared' after)
    (passed : after.passedBy shared'.history.closes = true) :
    before.passedBy shared.history.closes = true := by
  cases transition with
  | waitEntered => simp [Control.passedBy] at passed
  | waitResumed => exact passed
  | _ => cases passed

/-- Operations are enabled by `enableOperations`; every other step keeps the attempt
they belong to. -/
theorem Transition.enabled_cases (transition : Transition shared before choice shared' after)
    (enabled : shared'.manager.operationsEnabled = true) :
    (before = .enable ∨ shared.manager.operationsEnabled = true) ∧
      shared'.history.sessions = shared.history.sessions := by
  cases transition with
  | enabled => exact ⟨.inl rfl, rfl⟩
  | pollBegun | pollClosed | closed | stopClosed | disabled => cases enabled
  | _ => exact ⟨.inr enabled, rfl⟩

theorem Transition.stale_before (transition : Transition shared before choice shared' after)
    (stale : after.stale shared'.history.sessions = true) :
    before.stale shared.history.sessions = true := by
  cases transition with
  | callWait => simp [Control.stale] at stale
  | waitEntered | waitResumed => exact stale
  | _ => cases stale

theorem Transition.returns_cases (transition : Transition shared before choice shared' after) :
    shared'.history.returns = shared.history.returns ∨
    ∃ began closed, shared'.history.returns =
        ⟨began, shared.history.sessions, closed, shared.manager.operationsEnabled⟩ ::
          shared.history.returns ∧
      (closed = true → before.passedBy shared.history.closes = true) ∧
      (began ≠ shared.history.sessions → before.stale shared.history.sessions = true) := by
  cases transition with
  | waitSkipped began => exact .inr ⟨began, false, rfl, (nomatch ·), decide_eq_true⟩
  | waitReturned began ticket closesSeen => exact .inr ⟨began, _, rfl, id, decide_eq_true⟩
  | _ => exact .inl rfl

end Transition

section Step

variable {config next : Config} {thread : Nat} {choice : Choice} {before after : Control}

/-- A kind that no step brings about was in the pool before. -/
theorem somewhere_before (step : program.StepOf config thread choice next before after)
    {kind kind' : Control → Bool} (somewhere : next.Somewhere kind')
    (arrived : kind' after = true → kind before = true)
    (same : ∀ control, kind' control = true → kind control = true) : config.Somewhere kind := by
  obtain ⟨other, control, found, holds⟩ := somewhere.thread
  rcases step.thread_cases found with ⟨_, rfl⟩ | ⟨_, earlier⟩
  · exact Pool.somewhere_of_thread step.running (arrived holds)
  · exact Pool.somewhere_of_thread earlier (same control holds)

end Step

theorem waiterInvariant_step {config next : Config} {label : Nat × Choice}
    (inv : WaiterInvariant config) (guarded : ReopenGuarded config label)
    (stepped : program.machine.step? config label = some next) : WaiterInvariant next := by
  obtain ⟨before, after, step, transition⟩ := step_transition stepped
  obtain ⟨reopens, enables⟩ := guarded before step.running
  refine ⟨?_, ?_, ?_⟩
  · intro passed
    have passedBefore (same : next.shared.history.closes = config.shared.history.closes) :
        config.Somewhere (Control.passedBy config.shared.history.closes) :=
      somewhere_before step passed transition.passedBy_before fun _ holds => same ▸ holds
    rcases transition.barrier_cases with closed | reopening | ⟨same, sameEnabled, sameClosed⟩
    · exact closed
    · exact absurd (passedBefore (transition.reopening_closes reopening)) (reopens reopening).not_somewhere
    · rw [sameEnabled, sameClosed]
      exact inv.passed (passedBefore same)
  · intro enabled control member
    by_contra stale
    obtain ⟨origin, same⟩ := transition.enabled_cases enabled
    have staleBefore : config.Somewhere (Control.stale config.shared.history.sessions) :=
      somewhere_before step ⟨control, member, by simpa using stale⟩ transition.stale_before
        fun _ holds => same ▸ holds
    rcases origin with rfl | wasEnabled
    · exact (enables rfl).not_somewhere staleBefore
    · exact (inv.current wasEnabled).not_somewhere staleBefore
  · intro returned member
    rcases transition.returns_cases with same | ⟨began, closed, added, passed, stale⟩
    · exact inv.returns returned (same ▸ member)
    · rw [added] at member
      rcases List.mem_cons.mp member with rfl | earlier
      · refine ⟨fun closedWhileBlocked => ?_, fun result => ?_⟩
        · exact (inv.passed (Pool.somewhere_of_thread step.running (passed closedWhileBlocked))).1
        · by_contra other
          have somewhere := Pool.somewhere_of_thread step.running (stale (Ne.symm other))
          exact (inv.current result).not_somewhere somewhere
      · exact inv.returns returned earlier

theorem waiterInvariant_of_run {threads : Nat} {config : Config}
    (run : program.machine.Run ReopenGuarded (initial threads) config) : WaiterInvariant config :=
  run.invariant (waiterInvariant_initial threads) fun inv guarded stepped =>
    waiterInvariant_step inv guarded stepped

theorem waitsRegular_of_run {threads : Nat} {config : Config}
    (run : program.machine.Run ReopenGuarded (initial threads) config) : WaitsRegular config := by
  have inv := waiterInvariant_of_run run
  refine ⟨inv.returns, ?_⟩
  intro thread began ticket closesSeen found past
  obtain ⟨disabled, closed⟩ := inv.passed (Pool.somewhere_of_thread found (decide_eq_true past))
  have released : config.shared.manager.released = true := by simp [Manager.released, closed]
  exact ⟨released, disabled, (wakeupInvariant_of_run run).woken _ _ _ _ found released⟩

/-- A waiter that a close ran past while the barrier is not closed is irregular. -/
theorem not_regular_of_passed {config : Config}
    (passed : config.Somewhere (Control.passedBy config.shared.history.closes))
    (reopened : config.shared.manager.sessionClosed = false) : ¬ WaitsRegular config := by
  intro regular
  obtain ⟨thread, control, found, past⟩ := passed.thread
  cases control with
  | waitBlocked began ticket closesSeen =>
      obtain ⟨released, disabled, _⟩ := regular.released _ _ _ _ found (of_decide_eq_true past)
      simp [Manager.released, disabled, reopened] at released
  | _ => cases past

/-- A call of an earlier attempt that is let through by enabled operations returns true. -/
theorem solo_returns {shared : Shared} {control : Control}
    (stale : control.stale shared.history.sessions = true)
    (enabled : shared.manager.operationsEnabled = true)
    (notified : ∀ began ticket closesSeen, control = .waitBlocked began ticket closesSeen →
      ticket < shared.manager.notifications) :
    ∃ shared' after, program.solo? shared control [.proceed] = some (shared', after) ∧
      ∃ returned ∈ shared'.history.returns, ¬ returned.Regular := by
  have released : shared.manager.released = true := by simp [Manager.released, enabled]
  cases control with
  | waitEnter began =>
      refine ⟨(returnFromWait shared began false).1, .idle, ?_, _, List.mem_cons_self, ?_⟩
      · simp [Program.solo?, program, advance, released, returnFromWait]
      · intro regular
        exact of_decide_eq_true stale (regular.current enabled).symm
  | waitBlocked began ticket closesSeen =>
      have woken := notified _ _ _ rfl
      refine ⟨(returnFromWait shared began (closesSeen < shared.history.closes)).1, .idle, ?_, _,
        List.mem_cons_self, ?_⟩
      · simp [Program.solo?, program, advance, released, returnFromWait, woken]
      · intro regular
        exact of_decide_eq_true stale (regular.current enabled).symm
  | _ => cases stale

/-- Enabling operations while a call of an earlier attempt waits lets it return true. -/
theorem irregular_of_stale {threads : Nat} {config next : Config} {thread : Nat} {choice : Choice}
    {after : Control} (wakeups : WakeupInvariant next)
    (step : program.StepOf config thread choice next .enable after)
    (transition : Transition config.shared .enable choice next.shared after)
    (reached : program.machine.Reaches (initial threads) next)
    (stale : config.Somewhere (Control.stale config.shared.history.sessions)) :
    ∃ final, program.machine.Reaches (initial threads) final ∧ ¬ WaitsRegular final := by
  obtain ⟨other, control, found, old⟩ := stale.thread
  have different : other ≠ thread := by
    rintro rfl
    rw [step.running] at found
    cases found
    cases old
  obtain ⟨shared', threads'⟩ := next
  change Transition config.shared .enable choice shared' after at transition
  cases transition with
  | enabled =>
      obtain ⟨shared', after, ran, enabled, sameSessions, notified⟩ :
          ∃ shared' after, program.solo? (update config.shared config.shared.manager.enableOperations)
              .notify [.proceed] = some (shared', after) ∧
            shared'.manager.operationsEnabled = true ∧
            shared'.history.sessions = config.shared.history.sessions ∧
            shared'.manager.notifications = config.shared.manager.notifications + 1 :=
        ⟨_, _, rfl, rfl, rfl, rfl⟩
      obtain ⟨middle, notifies, sameShared, others⟩ :=
        Program.reaches_of_solo [Choice.proceed] step.advancedTo ran
      have waiting : middle.threads[other]? = some control := by
        rw [others other different, step.others other different]
        exact found
      have woken : ∀ began ticket closesSeen, control = .waitBlocked began ticket closesSeen →
          ticket < middle.shared.manager.notifications := by
        rintro began ticket closesSeen rfl
        rw [sameShared, notified]
        exact Nat.lt_succ_of_le (wakeups.seen other _ _ _ ((step.others other different).trans found))
      obtain ⟨last, stopped, ran, returned, member, irregular⟩ := solo_returns
        (by rwa [sameShared, sameSessions]) (by rwa [sameShared]) woken
      obtain ⟨final, returns, lastShared, _⟩ :=
        Program.reaches_of_solo [Choice.proceed] waiting ran
      refine ⟨final, (reached.trans notifies).trans returns, fun regular => ?_⟩
      rw [← lastShared] at member
      exact irregular (regular.returns returned member)

theorem Transition.reopens {shared shared' : Shared} {before after : Control} {choice : Choice}
    (transition : Transition shared before choice shared' after) (reopening : before.reopening = true) :
    shared'.manager.sessionClosed = false ∧ ∀ closes, before.passedBy closes = false := by
  cases transition with
  | pollBegun | disabled | enabled => exact ⟨rfl, fun _ => rfl⟩
  | _ => cases reopening

/-- An update that reopens the barrier too early leads to an irregular wait. -/
theorem irregular_of_unguarded {threads : Nat} {config next : Config} {label : Nat × Choice}
    (reached : program.machine.Reaches (initial threads) config)
    (unguarded : ¬ ReopenGuarded config label)
    (stepped : program.machine.step? config label = some next) :
    ∃ final, program.machine.Reaches (initial threads) final ∧ ¬ WaitsRegular final := by
  obtain ⟨before, after, step, transition⟩ := step_transition stepped
  have reachedNext := reached.step trivial stepped
  have escapes : before.reopening = true ∧
        config.Somewhere (Control.passedBy config.shared.history.closes) ∨
      before = .enable ∧ config.Somewhere (Control.stale config.shared.history.sessions) := by
    by_contra guarded
    push Not at guarded
    refine unguarded fun control running => ?_
    rw [step.running] at running
    cases running
    exact ⟨fun reopening => Pool.nowhere_iff.mpr (guarded.1 reopening),
      fun enabling => Pool.nowhere_iff.mpr (guarded.2 enabling)⟩
  rcases escapes with ⟨reopening, passed⟩ | ⟨rfl, stale⟩
  · obtain ⟨reopened, notWaiting⟩ := transition.reopens reopening
    refine ⟨next, reachedNext, not_regular_of_passed ?_ reopened⟩
    rw [transition.reopening_closes reopening]
    exact step.somewhere_kept passed (by simp [notWaiting])
  · exact irregular_of_stale (wakeupInvariant_of_run reachedNext) step transition reachedNext stale

/-- Waits are regular in every run that reopens the barrier late enough. Conversely, an update that reopens
it too early breaks regularity: a call returns as it must not, or a waiter that a close ran past is
released no more. -/
theorem waits_regular (threads : Nat) :
    (∀ config, program.machine.Run ReopenGuarded (initial threads) config → WaitsRegular config) ∧
    ∀ config label next, program.machine.Reaches (initial threads) config →
      ¬ ReopenGuarded config label → program.machine.step? config label = some next →
      ∃ final, program.machine.Reaches (initial threads) final ∧ ¬ WaitsRegular final :=
  ⟨fun _ run => waitsRegular_of_run run,
    fun _ _ _ reached unguarded stepped => irregular_of_unguarded reached unguarded stepped⟩

/-- A track is announced while the first attempt runs; the attempt fails, and the
second one begins and connects before the waiter re-checks. -/
def trackAcrossAttempts : List (Nat × Choice) :=
  attemptSchedule 0 0 ++ [(1, .call .waitForOperations), (1, .proceed)] ++ failSchedule 0 ++
    attemptSchedule 0 kRetryInterval ++
    [.connected true, .proceed, .proceed, .proceed].map (0, ·) ++ [(1, .proceed)]

/-- A waiter of a failed attempt that re-checks before the next one begins. -/
def trackOfFailedAttempt : List (Nat × Choice) :=
  attemptSchedule 0 0 ++ [(1, .call .waitForOperations), (1, .proceed)] ++ failSchedule 0 ++
    [(1, .proceed)] ++ attemptSchedule 0 kRetryInterval

theorem waits_regular_after_failure :
    ∃ config, program.machine.exec? (initial 2) trackOfFailedAttempt = some config ∧
      config.shared.history.returns = [⟨1, 1, true, false⟩] ∧ WaitsRegular config :=
  ⟨_, rfl, rfl, (waits_regular 2).1 _ (Machine.Run.of_exec trackOfFailedAttempt rfl)⟩

/-- `trackAcrossAttempts` returns true in the second session to a call of the first. -/
theorem waits_irregular :
    ¬ ∀ (threads : Nat) (config : Config), program.machine.Reaches (initial threads) config →
      WaitsRegular config := by
  intro regular
  have reached : program.machine.Reaches (initial 2) _ := .of_exec trackAcrossAttempts rfl
  have returned := (regular 2 _ reached).returns ⟨1, 2, true, true⟩ (by decide)
  cases returned.closed rfl

end RosPortal.Connection
