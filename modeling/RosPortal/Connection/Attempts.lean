import RosPortal.Connection.Invariants

/-! Connection attempts. `poll` reads the state, compares the clock and exchanges
the state in three steps, so what it has read may be stale when it claims the
attempt, and a room event may take `Connecting` away while the attempt runs. -/

set_option autoImplicit false

namespace RosPortal.Connection

open Interleaving

def Control.attempting : Control → Bool
  | .pollSchedule _ | .pollBeginSession _ | .pollTryConnect _ | .pollConnecting | .pollAdopt => true
  | _ => false

/-- The call has claimed an attempt and not yet started `try_connect`; the time is
the `now()` by which it judged the attempt due. -/
def Control.startingAt : Control → Option Int
  | .pollSchedule now | .pollBeginSession now | .pollTryConnect now => some now
  | _ => none

def Control.starting (control : Control) : Bool := control.startingAt.isSome

/-- The call has moved the next attempt one interval past its own. -/
def Control.scheduledAt : Control → Option Int
  | .pollBeginSession now | .pollTryConnect now => some now
  | _ => none

/-- The guard of `poll` still holds when the attempt is claimed, and nothing ends the
session between the claim and the start of `try_connect`. -/
def Control.AttemptGuarded (config : Config) (choice : Choice) : Control → Prop
  | .pollClaim now => config.shared.manager.state = .disconnected →
      config.Nowhere Control.attempting ∧ config.shared.manager.nextAttemptAt ≤ now
  | .disconnectedExchange previous => choice = .proceed ∧ config.shared.manager.state = previous →
      config.Nowhere Control.starting
  | .stopNotify => config.Nowhere Control.starting
  | _ => True

instance (config : Config) (choice : Choice) (control : Control) :
    Decidable (control.AttemptGuarded config choice) := by
  cases control <;> dsimp only [Control.AttemptGuarded] <;> infer_instance

def AttemptGuarded (config : Config) (label : Nat × Choice) : Prop :=
  ∀ control ∈ config.threads[label.1]?, control.AttemptGuarded config label.2

instance (config : Config) (label : Nat × Choice) : Decidable (AttemptGuarded config label) :=
  inferInstanceAs (Decidable (∀ control ∈ config.threads[label.1]?, _))

def State.forbidsAttempt : State → Bool
  | .connected | .reconnecting | .waitingForRoomEos => true
  | .disconnected | .connecting | .stopped => false

/-- Attempts in the order of their starts, newest first, are an interval apart by
the `now()` each of them was judged by. -/
def Spaced (starts : List AttemptStart) : Prop :=
  starts.Pairwise fun later earlier => earlier.now + kRetryInterval ≤ later.now

/-- At most one attempt is in flight, attempts are spaced by `kRetryInterval`, and
none started in a state that forbids it or after `stop` returned. -/
structure AttemptsRegular (config : Config) : Prop where
  single : ∀ first second : Nat, config.threads[first]? = some .pollConnecting →
    config.threads[second]? = some .pollConnecting → first = second
  spaced : Spaced config.shared.history.starts
  allowed : ∀ start ∈ config.shared.history.starts,
    start.state.forbidsAttempt = false ∧ start.afterStop = false

/-- An attempt started at `now` would come an interval after every earlier one. -/
def Due (starts : List AttemptStart) (now : Int) : Prop :=
  ∀ start ∈ starts, start.now + kRetryInterval ≤ now

def Startable (shared : Shared) : Prop :=
  shared.manager.state.forbidsAttempt = false ∧ shared.history.stopReturned = false

/-- What keeps attempts regular: a claimed attempt is the only one, is due, and its
start is neither forbidden nor forgotten by `next_attempt_time`. -/
structure AttemptInvariant (config : Config) : Prop where
  exclusive : ∀ (first second : Nat) (one two : Control),
    config.threads[first]? = some one → config.threads[second]? = some two →
    one.attempting = true → two.attempting = true → first = second
  starting : ∀ (thread : Nat) (control : Control) (now : Int),
    config.threads[thread]? = some control → control.startingAt = some now →
    Due config.shared.history.starts now ∧ Startable config.shared
  scheduled : ∀ (thread : Nat) (control : Control) (now : Int),
    config.threads[thread]? = some control → control.scheduledAt = some now →
    config.shared.manager.nextAttemptAt = now + kRetryInterval
  due : Due config.shared.history.starts config.shared.manager.nextAttemptAt
  spaced : Spaced config.shared.history.starts
  allowed : ∀ start ∈ config.shared.history.starts,
    start.state.forbidsAttempt = false ∧ start.afterStop = false

theorem attemptInvariant_initial (threads : Nat) : AttemptInvariant (initial threads) := by
  refine ⟨?_, ?_, ?_, by simp [initial, Due], by simp [initial, Spaced], by simp [initial]⟩
  · intro first second one two found _ attempting
    rw [initial_thread found] at attempting
    cases attempting
  · intro thread control now found starting
    rw [initial_thread found] at starting
    cases starting
  · intro thread control now found scheduled
    rw [initial_thread found] at scheduled
    cases scheduled

theorem Control.attempting_of_startingAt {control : Control} {now : Int}
    (starting : control.startingAt = some now) : control.attempting = true := by
  cases control <;> simp_all [Control.startingAt, Control.attempting]

theorem Control.startingAt_of_scheduledAt {control : Control} {now : Int}
    (scheduled : control.scheduledAt = some now) : control.startingAt = some now := by
  cases control <;> simp_all [Control.startingAt, Control.scheduledAt]

section Transition

variable {shared shared' : Shared} {before after : Control} {choice : Choice}

/-- An attempt is claimed by the exchange of `poll` and by no other step. -/
theorem Transition.attempting_cases (transition : Transition shared before choice shared' after)
    (attempting : after.attempting = true) :
    before.attempting = true ∨
      ∃ now, before = .pollClaim now ∧ after = .pollSchedule now ∧
        shared.manager.state = .disconnected ∧
        shared' = update shared { shared.manager with state := .connecting } := by
  cases transition with
  | pollClaimed now same => exact .inr ⟨now, rfl, rfl, same, rfl⟩
  | pollScheduled | pollBegun | pollStarted | pollSucceeded => exact .inl rfl
  | _ => cases attempting

/-- `next_attempt_time` and the attempts on record change in one step each. -/
theorem Transition.schedule_cases (transition : Transition shared before choice shared' after) :
    (shared'.history.starts = shared.history.starts ∧
      shared'.manager.nextAttemptAt = shared.manager.nextAttemptAt) ∨
    (∃ now, before = .pollSchedule now ∧ shared'.history.starts = shared.history.starts ∧
      shared'.manager.nextAttemptAt = now + kRetryInterval) ∨
    (∃ now, before = .pollTryConnect now ∧ after = .pollConnecting ∧
      shared'.history.starts =
        ⟨now, shared.manager.state, shared.history.stopReturned⟩ :: shared.history.starts ∧
      shared'.manager.nextAttemptAt = shared.manager.nextAttemptAt) := by
  cases transition with
  | pollScheduled now => exact .inr (.inl ⟨now, rfl, rfl, rfl⟩)
  | pollStarted now => exact .inr (.inr ⟨now, rfl, rfl, rfl, rfl⟩)
  | _ => exact .inl ⟨rfl, rfl⟩

/-- A call on its way to `try_connect` has either just claimed its attempt or was
on its way before. -/
theorem Transition.startingAt_before (transition : Transition shared before choice shared' after)
    {now : Int} (starting : after.startingAt = some now) (claimed : before ≠ .pollClaim now) :
    before.startingAt = some now ∧ (Startable shared → Startable shared') := by
  cases transition with
  | pollClaimed => simp_all [Control.startingAt]
  | pollScheduled | pollBegun => exact ⟨starting, id⟩
  | _ => cases starting

theorem Transition.scheduledAt_before (transition : Transition shared before choice shared' after)
    {now : Int} (scheduled : after.scheduledAt = some now) :
    (before.scheduledAt = some now ∧
      shared'.manager.nextAttemptAt = shared.manager.nextAttemptAt) ∨
    shared'.manager.nextAttemptAt = now + kRetryInterval := by
  cases transition with
  | pollScheduled => exact .inr (by simp_all [Control.scheduledAt, update])
  | pollBegun => exact .inl ⟨scheduled, rfl⟩
  | _ => cases scheduled

/-- A guarded step of another call leaves a claimed attempt startable. -/
theorem Transition.keeps_startable {config : Config} (before_idle : before.attempting = false)
    (transition : Transition config.shared before choice shared' after)
    (guarded : before.AttemptGuarded config choice) (claimed : config.Somewhere Control.starting)
    (startable : Startable config.shared) : Startable shared' := by
  obtain ⟨permitted, running⟩ := startable
  cases transition with
  | pollAdopted => cases before_idle
  | reconnecting connected => simp [connected, State.forbidsAttempt] at permitted
  | reconnected reconnecting => simp [reconnecting, State.forbidsAttempt] at permitted
  | disconnected previous same => exact absurd claimed (guarded ⟨rfl, same⟩).not_somewhere
  | stopReturned => exact absurd claimed guarded.not_somewhere
  | _ => exact ⟨by first | exact permitted | rfl, running⟩

end Transition

theorem due_of_le {starts : List AttemptStart} {earlier later : Int} (due : Due starts earlier)
    (ordered : earlier ≤ later) : Due starts later := by
  intro start member
  have := due start member
  omega

section Step

variable {config next : Config} {thread : Nat} {choice : Choice} {before after : Control}

theorem AttemptInvariant.exclusive_step (inv : AttemptInvariant config)
    (step : program.StepOf config thread choice next before after)
    (transition : Transition config.shared before choice next.shared after)
    (guarded : before.AttemptGuarded config choice) {first second : Nat} {one two : Control}
    (foundOne : next.threads[first]? = some one) (foundTwo : next.threads[second]? = some two)
    (attemptingOne : one.attempting = true) (attemptingTwo : two.attempting = true) :
    first = second := by
  -- Another thread that attempts rules out that the advanced one has just claimed.
  have alone : ∀ {other : Nat} {control : Control}, other ≠ thread →
      config.threads[other]? = some control → control.attempting = true →
      after.attempting = true → False := by
    intro other control different found attempting arrived
    rcases transition.attempting_cases arrived with earlier | ⟨now, rfl, -, free, -⟩
    · exact different (inv.exclusive _ _ _ _ found step.running attempting earlier)
    · have nobody := (guarded free).1.thread found
      rw [attempting] at nobody
      cases nobody
  rcases step.thread_cases foundOne with ⟨rfl, rfl⟩ | ⟨otherOne, earlierOne⟩
  · rcases step.thread_cases foundTwo with ⟨rfl, rfl⟩ | ⟨otherTwo, earlierTwo⟩
    · rfl
    · exact (alone otherTwo earlierTwo attemptingTwo attemptingOne).elim
  · rcases step.thread_cases foundTwo with ⟨rfl, rfl⟩ | ⟨_, earlierTwo⟩
    · exact (alone otherOne earlierOne attemptingOne attemptingTwo).elim
    · exact inv.exclusive _ _ _ _ earlierOne earlierTwo attemptingOne attemptingTwo

theorem AttemptInvariant.others_idle (inv : AttemptInvariant config) {first second : Nat}
    {one two : Control} (foundOne : config.threads[first]? = some one)
    (foundTwo : config.threads[second]? = some two) (different : first ≠ second)
    (attempting : one.attempting = true) : two.attempting = false := by
  by_contra attemptingTwo
  exact different (inv.exclusive _ _ _ _ foundOne foundTwo attempting (by simpa using attemptingTwo))

theorem AttemptInvariant.starting_step (inv : AttemptInvariant config) (sane : Sane config)
    (step : program.StepOf config thread choice next before after)
    (transition : Transition config.shared before choice next.shared after)
    (guarded : before.AttemptGuarded config choice) {other : Nat} {control : Control} {now : Int}
    (found : next.threads[other]? = some control) (starting : control.startingAt = some now) :
    Due next.shared.history.starts now ∧ Startable next.shared := by
  have attempting := Control.attempting_of_startingAt starting
  rcases step.thread_cases found with ⟨_, rfl⟩ | ⟨different, earlier⟩
  · rcases transition.attempting_cases attempting with _ | ⟨claimedAt, rfl, rfl, free, moved⟩
    · have notClaim : before ≠ .pollClaim now := by
        rintro rfl
        simp_all [Control.attempting]
      obtain ⟨startingBefore, kept⟩ := transition.startingAt_before starting notClaim
      obtain ⟨due, startable⟩ := inv.starting _ _ _ step.running startingBefore
      refine ⟨?_, kept startable⟩
      rcases transition.schedule_cases with ⟨same, _⟩ | ⟨_, _, same, _⟩ | ⟨_, _, rfl, _, _⟩
      · rwa [same]
      · rwa [same]
      · cases starting
    · cases starting
      have ready := (guarded free).2
      have notReturned : config.shared.history.stopReturned = false := by
        by_contra returned
        have stopped := sane.stopped (by simpa using returned)
        rw [free] at stopped
        cases stopped
      rw [moved]
      exact ⟨due_of_le inv.due ready, rfl, notReturned⟩
  · have idle := inv.others_idle earlier step.running different attempting
    obtain ⟨due, startable⟩ := inv.starting _ _ _ earlier starting
    have claimed : config.Somewhere Control.starting :=
      Pool.somewhere_of_thread earlier (by simp [Control.starting, starting])
    refine ⟨?_, transition.keeps_startable idle guarded claimed startable⟩
    rcases transition.schedule_cases with ⟨same, _⟩ | ⟨_, _, same, _⟩ | ⟨_, rfl, _, _, _⟩
    · rwa [same]
    · rwa [same]
    · cases idle

theorem AttemptInvariant.scheduled_step (inv : AttemptInvariant config)
    (step : program.StepOf config thread choice next before after)
    (transition : Transition config.shared before choice next.shared after) {other : Nat}
    {control : Control} {now : Int} (found : next.threads[other]? = some control)
    (scheduled : control.scheduledAt = some now) :
    next.shared.manager.nextAttemptAt = now + kRetryInterval := by
  rcases step.thread_cases found with ⟨_, rfl⟩ | ⟨different, earlier⟩
  · rcases transition.scheduledAt_before scheduled with ⟨scheduledBefore, same⟩ | moved
    · exact same.trans (inv.scheduled _ _ _ step.running scheduledBefore)
    · exact moved
  · have attempting := Control.attempting_of_startingAt (Control.startingAt_of_scheduledAt scheduled)
    have idle := inv.others_idle earlier step.running different attempting
    rcases transition.schedule_cases with ⟨_, same⟩ | ⟨_, rfl, _, _⟩ | ⟨_, rfl, _, _, _⟩
    · exact same.trans (inv.scheduled _ _ _ earlier scheduled)
    · cases idle
    · cases idle

/-- The record of starts and the next attempt move together. -/
theorem AttemptInvariant.record_step (inv : AttemptInvariant config)
    (step : program.StepOf config thread choice next before after)
    (transition : Transition config.shared before choice next.shared after) :
    Due next.shared.history.starts next.shared.manager.nextAttemptAt ∧
      Spaced next.shared.history.starts ∧
      ∀ start ∈ next.shared.history.starts,
        start.state.forbidsAttempt = false ∧ start.afterStop = false := by
  rcases transition.schedule_cases with ⟨starts, time⟩ | ⟨now, rfl, starts, time⟩ |
    ⟨now, rfl, _, starts, time⟩
  · rw [starts, time]
    exact ⟨inv.due, inv.spaced, inv.allowed⟩
  · have due := (inv.starting _ _ now step.running rfl).1
    rw [starts, time]
    exact ⟨due_of_le due (by unfold kRetryInterval; omega), inv.spaced, inv.allowed⟩
  · obtain ⟨due, permitted, running⟩ := inv.starting _ _ now step.running rfl
    have scheduled := inv.scheduled _ _ now step.running rfl
    rw [starts, time]
    refine ⟨?_, List.pairwise_cons.mpr ⟨due, inv.spaced⟩, ?_⟩
    · intro start member
      rcases List.mem_cons.mp member with rfl | earlier
      · exact Int.le_of_eq scheduled.symm
      · exact inv.due start earlier
    · intro start member
      rcases List.mem_cons.mp member with rfl | earlier
      · exact ⟨permitted, running⟩
      · exact inv.allowed start earlier

end Step

theorem attemptInvariant_step {config next : Config} {label : Nat × Choice} (sane : Sane config)
    (inv : AttemptInvariant config) (guarded : AttemptGuarded config label)
    (stepped : program.machine.step? config label = some next) : AttemptInvariant next := by
  obtain ⟨before, after, step, transition⟩ := step_transition stepped
  have guard := guarded before step.running
  obtain ⟨due, spaced, allowed⟩ := inv.record_step step transition
  exact {
    exclusive := fun _ _ _ _ foundOne foundTwo =>
      inv.exclusive_step step transition guard foundOne foundTwo
    starting := fun _ _ _ found => inv.starting_step sane step transition guard found
    scheduled := fun _ _ _ found => inv.scheduled_step step transition found
    due, spaced, allowed }

theorem attemptInvariant_of_run {threads : Nat} {config : Config}
    (run : program.machine.Run AttemptGuarded (initial threads) config) : AttemptInvariant config :=
  run.invariant_with sane_of_run (attemptInvariant_initial threads)
    fun sane inv guarded stepped => attemptInvariant_step sane inv guarded stepped

/-- Attempts never overlap, keep their interval and start only where they may, in
every run in which no stale poll claims an attempt and no session ends in between. -/
theorem attempts_regular (threads : Nat) (config : Config)
    (run : program.machine.Run AttemptGuarded (initial threads) config) : AttemptsRegular config := by
  have inv := attemptInvariant_of_run run
  refine ⟨?_, inv.spaced, inv.allowed⟩
  intro first second foundFirst foundSecond
  exact inv.exclusive _ _ _ _ foundFirst foundSecond rfl rfl

/-- One thread polls at the given time up to `try_connect`. -/
def attemptSchedule (thread : Nat) (now : Int) : List (Nat × Choice) :=
  [.call .poll, .proceed, .time now, .proceed, .proceed, .proceed, .proceed, .proceed].map (thread, ·)

def failSchedule (thread : Nat) : List (Nat × Choice) :=
  [.connected false, .proceed, .proceed, .proceed].map (thread, ·)

theorem attempts_regular_after_retry :
    ∃ config, program.machine.exec? (initial 2)
        (attemptSchedule 0 0 ++ failSchedule 0 ++ attemptSchedule 1 kRetryInterval) = some config ∧
      config.shared.history.starts.length = 2 ∧ AttemptsRegular config :=
  ⟨_, rfl, rfl, attempts_regular 2 _ (Machine.Run.of_exec
    (attemptSchedule 0 0 ++ failSchedule 0 ++ attemptSchedule 1 kRetryInterval) rfl)⟩

/-- The room ends while an attempt runs, and the next tick starts a second attempt. -/
def eosDuringAttempt : List (Nat × Choice) :=
  attemptSchedule 0 0 ++ [.call .onRoomEos, .proceed, .proceed, .proceed, .proceed].map (2, ·) ++
    attemptSchedule 1 kRetryInterval

theorem attempts_overlap :
    ¬ ∀ (threads : Nat) (config : Config), program.machine.Reaches (initial threads) config →
      AttemptsRegular config := by
  intro regular
  have reached : program.machine.Reaches (initial 3) _ := .of_exec eosDuringAttempt rfl
  exact absurd ((regular 3 _ reached).single 0 1 rfl rfl) (by decide)

/-- Two polls find the attempt due; the second claims it after the first has failed. -/
def stalePoll : List (Nat × Choice) :=
  [.call .poll, .proceed, .time 0, .proceed].map (1, ·) ++ attemptSchedule 0 0 ++ failSchedule 0 ++
    [.proceed, .proceed, .proceed, .proceed].map (1, ·)

theorem attempts_unspaced :
    ∃ config, program.machine.Reaches (initial 2) config ∧ ¬ Spaced config.shared.history.starts := by
  refine ⟨_, .of_exec stalePoll rfl, ?_⟩
  unfold Spaced
  decide

end RosPortal.Connection
