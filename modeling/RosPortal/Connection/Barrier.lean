import RosPortal.Connection.Invariants

/-! The readiness barrier against the connection state. A call first changes
`state_` and updates the barrier in a later step, so the two agree only if no
other transition slips in between. -/

set_option autoImplicit false

namespace RosPortal.Connection

open Interleaving

structure BarrierAgrees (manager : Manager) : Prop where
  enabled : manager.operationsEnabled = true ↔ manager.state = .connected
  closed : manager.sessionClosed = true ↔ manager.state.ended = true

/-- Whether a barrier update made in this state sets the barrier the state stands
for. A failed attempt closes the session before it gives `Connecting` up. -/
def Control.onTime (state : State) : Control → Bool
  | .enable => state = .connected
  | .disable => state = .reconnecting
  | .pollBeginSession _ => state = .connecting
  | .pollCloseFailed => state = .connecting || state.ended
  | .close | .stopClose => state.ended
  | _ => true

/-- The step does not update the barrier for a state that another call has left. -/
def OnTime (config : Config) (label : Nat × Choice) : Prop :=
  ∀ control ∈ config.threads[label.1]?, control.onTime config.shared.manager.state = true

instance (config : Config) (label : Nat × Choice) : Decidable (OnTime config label) :=
  inferInstanceAs (Decidable (∀ control ∈ config.threads[label.1]?, _ = true))

def Control.owesUpdate : Control → Bool
  | .pollSchedule _ | .pollBeginSession _ | .pollTryConnect _ | .pollConnecting
  | .pollCloseFailed | .pollAdopt | .enable | .disable | .close | .stopClose => true
  | _ => false

/-- A failed attempt has closed the session and is about to give `Connecting` up. -/
def Control.releasing : Control → Bool
  | .pollNotifyFailed | .pollReleaseFailed => true
  | _ => false

/-- While no update is owed the barrier agrees with the state, except that a failed
attempt holds a closed session in `Connecting` until it releases it. -/
structure BarrierInvariant (config : Config) : Prop where
  connecting : config.shared.manager.state = .connecting →
    config.Somewhere Control.owesUpdate ∨
      (config.shared.manager.operationsEnabled = false ∧
        config.shared.manager.sessionClosed = true ∧ config.Somewhere Control.releasing)
  settled : config.shared.manager.state ≠ .connecting →
    config.Somewhere Control.owesUpdate ∨ BarrierAgrees config.shared.manager

theorem barrierInvariant_initial (threads : Nat) : BarrierInvariant (initial threads) := by
  constructor
  · intro connecting
    simp [initial] at connecting
  · intro _
    exact .inr ⟨by simp [initial], by simp [initial, State.ended]⟩

section Step

variable {config next : Config} {thread : Nat} {choice : Choice} {before after : Control}

theorem barrierInvariant_of_owing (step : program.StepOf config thread choice next before after)
    (owes : after.owesUpdate = true) : BarrierInvariant next :=
  ⟨fun _ => .inl (step.somewhere_arrived owes), fun _ => .inl (step.somewhere_arrived owes)⟩

/-- An update made on time sets the barrier its state stands for. -/
theorem barrierInvariant_of_agrees (agrees : BarrierAgrees next.shared.manager)
    (left : next.shared.manager.state ≠ .connecting) : BarrierInvariant next :=
  ⟨fun connecting => absurd connecting left, fun _ => .inr agrees⟩

theorem BarrierInvariant.quiet (inv : BarrierInvariant config)
    (step : program.StepOf config thread choice next before after)
    (same : next.shared.manager.state = config.shared.manager.state ∧
      next.shared.manager.operationsEnabled = config.shared.manager.operationsEnabled ∧
      next.shared.manager.sessionClosed = config.shared.manager.sessionClosed)
    (owes : before.owesUpdate = true → after.owesUpdate = true)
    (releasing : config.shared.manager.state = .connecting →
      before.releasing = true → after.releasing = true) : BarrierInvariant next := by
  obtain ⟨sameState, sameEnabled, sameClosed⟩ := same
  constructor
  · intro connecting
    rw [sameState] at connecting
    rcases inv.connecting connecting with owed | ⟨disabled, closed, held⟩
    · exact .inl (step.somewhere_kept owed owes)
    · exact .inr ⟨sameEnabled.trans disabled, sameClosed.trans closed,
        step.somewhere_kept held (releasing connecting)⟩
  · intro left
    rw [sameState] at left
    rcases inv.settled left with owed | agrees
    · exact .inl (step.somewhere_kept owed owes)
    · refine .inr ⟨?_, ?_⟩
      · rw [sameEnabled, sameState]
        exact agrees.enabled
      · rw [sameClosed, sameState]
        exact agrees.closed

end Step

theorem closeSession_agrees {manager : Manager} (ended : manager.state.ended = true) :
    BarrierAgrees manager.closeSession := by
  refine ⟨?_, by simp [Manager.closeSession, ended]⟩
  cases state : manager.state <;> simp_all [Manager.closeSession, State.ended]

theorem not_connecting_of_ended {state : State} (ended : state.ended = true) :
    state ≠ .connecting := by
  rintro rfl
  cases ended

theorem barrierInvariant_step {config next : Config} {label : Nat × Choice}
    (inv : BarrierInvariant config) (onTime : OnTime config label)
    (stepped : program.machine.step? config label = some next) : BarrierInvariant next := by
  obtain ⟨before, after, step, transition⟩ := step_transition stepped
  obtain ⟨thread, choice⟩ := label
  obtain ⟨shared', threads'⟩ := next
  have timely : before.onTime config.shared.manager.state = true := onTime before step.running
  have owing := barrierInvariant_of_owing step
  change Transition config.shared before choice shared' after at transition
  cases transition with
  | pollClaimed | pollScheduled | pollBegun | pollStarted | pollSucceeded | pollFailed
  | pollAdopted | pollLost | reconnecting | reconnected | disconnected | eos | stopStored =>
      exact owing rfl
  | pollClosed =>
      simp only [Control.onTime, Bool.or_eq_true, decide_eq_true_eq] at timely
      rcases timely with connecting | ended
      · exact ⟨fun _ => .inr ⟨rfl, rfl, step.somewhere_arrived rfl⟩, fun left => absurd connecting left⟩
      · exact barrierInvariant_of_agrees (closeSession_agrees ended) (not_connecting_of_ended ended)
  | pollReleased connecting =>
      refine ⟨(nomatch ·), fun _ => ?_⟩
      rcases inv.connecting connecting with owed | ⟨disabled, closed, _⟩
      · exact .inl (step.somewhere_kept owed (by simp [Control.owesUpdate]))
      · exact .inr ⟨by simp [update, disabled], by simp [update, closed, State.ended]⟩
  | pollOverruled left =>
      exact inv.quiet step ⟨rfl, rfl, rfl⟩ (by simp [Control.owesUpdate])
        (fun connecting => absurd connecting left)
  | eosAfterDisconnect waiting =>
      refine ⟨(nomatch ·), fun _ => ?_⟩
      rcases inv.settled (by simp [waiting]) with owed | agrees
      · exact .inl (step.somewhere_kept owed (by simp [Control.owesUpdate]))
      · have disabled := agrees.enabled
        have closed := agrees.closed
        exact .inr ⟨by simp_all [update], by simp_all [update, State.ended]⟩
  | enabled =>
      have connected : config.shared.manager.state = .connected := by simpa [Control.onTime] using timely
      refine barrierInvariant_of_agrees ⟨?_, ?_⟩ (by simp [update, Manager.enableOperations, connected])
      · simp [update, Manager.enableOperations, connected]
      · simp [update, Manager.enableOperations, connected, State.ended]
  | disabled =>
      have lost : config.shared.manager.state = .reconnecting := by simpa [Control.onTime] using timely
      refine barrierInvariant_of_agrees ⟨?_, ?_⟩ (by simp [update, Manager.disableOperations, lost])
      · simp [update, Manager.disableOperations, lost]
      · simp [update, Manager.disableOperations, lost, State.ended]
  | closed | stopClosed =>
      exact barrierInvariant_of_agrees (closeSession_agrees timely) (not_connecting_of_ended timely)
  | _ => exact inv.quiet step ⟨rfl, rfl, rfl⟩ (by simp [Control.owesUpdate]) (by simp [Control.releasing])

theorem barrierInvariant_of_run {threads : Nat} {config : Config}
    (run : program.machine.Run OnTime (initial threads) config) : BarrierInvariant config :=
  run.invariant (barrierInvariant_initial threads) fun inv onTime stepped =>
    barrierInvariant_step inv onTime stepped

theorem Control.transitioning_of_owesUpdate {control : Control} (owes : control.owesUpdate = true) :
    control.transitioning = true := by
  cases control <;> simp_all [Control.owesUpdate, Control.transitioning]

theorem Control.transitioning_of_releasing {control : Control} (releasing : control.releasing = true) :
    control.transitioning = true := by
  cases control <;> simp_all [Control.releasing, Control.transitioning]

/-- The readiness barrier agrees with the connection state whenever no call is in
progress, in every run whose barrier updates are all made on time. In particular
operations stay disabled once `stop` has returned and the calls in flight are done. -/
theorem barrier_agrees_when_quiescent (threads : Nat) (config : Config)
    (run : program.machine.Run OnTime (initial threads) config) (quiescent : Quiescent config) :
    BarrierAgrees config.shared.manager ∧
      (config.shared.history.stopReturned = true → config.shared.manager.operationsEnabled = false) := by
  have inv := barrierInvariant_of_run run
  have nothingOwed : ¬ config.Somewhere Control.owesUpdate := by
    intro owed
    obtain ⟨control, member, owes⟩ := owed
    have := quiescent control member
    rw [Control.transitioning_of_owesUpdate owes] at this
    cases this
  have nothingHeld : ¬ config.Somewhere Control.releasing := by
    intro released
    obtain ⟨control, member, releasing⟩ := released
    have := quiescent control member
    rw [Control.transitioning_of_releasing releasing] at this
    cases this
  have agrees : BarrierAgrees config.shared.manager := by
    by_cases connecting : config.shared.manager.state = .connecting
    · rcases inv.connecting connecting with owed | ⟨_, _, held⟩
      · exact absurd owed nothingOwed
      · exact absurd held nothingHeld
    · exact (inv.settled connecting).resolve_left nothingOwed
  refine ⟨agrees, fun returned => ?_⟩
  have stopped := (sane_of_run run).stopped returned
  simpa [stopped] using agrees.enabled

def joinSchedule (thread : Nat) : List (Nat × Choice) :=
  [.call .poll, .proceed, .time 0, .proceed, .proceed, .proceed, .proceed, .proceed,
    .connected true, .proceed, .proceed, .proceed].map (thread, ·)

theorem barrier_agrees_after_join :
    ∃ config, program.machine.exec? (initial 1) (joinSchedule 0) = some config ∧
      config.shared.manager.state = .connected ∧ BarrierAgrees config.shared.manager :=
  ⟨_, rfl, rfl, (barrier_agrees_when_quiescent 1 _
    (Machine.Run.of_exec (joinSchedule 0) rfl) (by decide)).1⟩

/-- `stop` runs from start to end between the exchange by which a poll becomes
`Connected` and its `enableOperations`. -/
def stopDuringAdopt : List (Nat × Choice) :=
  (joinSchedule 0).take 10 ++ [.call .stop, .proceed, .proceed, .proceed].map (1, ·) ++
    (joinSchedule 0).drop 10

/-- The barrier does not agree with the state in every quiescent state: after
`stopDuringAdopt` operations are enabled although `stop` has returned. -/
theorem barrier_disagrees_after_stop :
    ¬ ∀ (threads : Nat) (config : Config), program.machine.Reaches (initial threads) config →
      Quiescent config → BarrierAgrees config.shared.manager := by
  intro agrees
  have reached : program.machine.Reaches (initial 2) _ := .of_exec stopDuringAdopt rfl
  have enabled := (agrees 2 _ reached (by decide)).enabled
  exact absurd (enabled.mp rfl) (by decide)

end RosPortal.Connection
