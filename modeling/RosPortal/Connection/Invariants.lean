import RosPortal.Connection.Transition

/-! Facts about every run of the connection manager, whatever the interleaving:
what a thread inside a retry loop has seen, and that `stop` is final. -/

set_option autoImplicit false

namespace RosPortal.Connection

open Interleaving

/-- A retry loop only attempts an exchange from a state its head lets through. -/
def Control.Sound : Control → Prop
  | .disconnectedExchange previous => previous.ended = false
  | .eosExchange previous => previous ≠ .stopped ∧ previous ≠ .disconnected
  | _ => True

theorem Transition.sound {shared shared' : Shared} {before after : Control} {choice : Choice}
    (transition : Transition shared before choice shared' after) : after.Sound := by
  cases transition with
  | disconnectedLoaded running | disconnectedRetried _ _ running => exact running
  | eosLoaded notStopped notDisconnected | eosRetried _ _ notStopped notDisconnected =>
      exact ⟨notStopped, notDisconnected⟩
  | _ => trivial

/-- Every control point of the pool is sound, and a returned `stop` left `Stopped` for good. -/
structure Sane (config : Config) : Prop where
  sound : ∀ (thread : Nat) (control : Control),
    config.threads[thread]? = some control → control.Sound
  stopping : ∀ (thread : Nat) (control : Control), config.threads[thread]? = some control →
    control = .stopClose ∨ control = .stopNotify → config.shared.manager.state = .stopped
  stopped : config.shared.history.stopReturned = true → config.shared.manager.state = .stopped

theorem sane_initial (threads : Nat) : Sane (initial threads) := by
  refine ⟨?_, ?_, by simp [initial]⟩
  · intro thread control found
    rw [initial_thread found]
    trivial
  · intro thread control found stopping
    rw [initial_thread found] at stopping
    simp at stopping

theorem Transition.keeps_stopped {shared shared' : Shared} {before after : Control} {choice : Choice}
    (transition : Transition shared before choice shared' after) (sound : before.Sound)
    (stopped : shared.manager.state = .stopped) : shared'.manager.state = .stopped := by
  cases transition with
  | disconnected previous same =>
      rw [same] at stopped
      simp [Control.Sound, stopped, State.ended] at sound
  | eos previous same =>
      rw [same] at stopped
      exact absurd stopped sound.1
  | pollClaimed | pollReleased | pollAdopted | reconnecting | reconnected | eosAfterDisconnect =>
      simp_all
  | stopStored => rfl
  | _ => exact stopped

/-- Between its store and its return, `stop` sees its own state. -/
theorem Transition.stopping_stopped {shared shared' : Shared} {before after : Control}
    {choice : Choice} (transition : Transition shared before choice shared' after)
    (earlier : before = .stopClose ∨ before = .stopNotify → shared.manager.state = .stopped)
    (stopping : after = .stopClose ∨ after = .stopNotify) : shared'.manager.state = .stopped := by
  cases transition with
  | stopStored => rfl
  | stopClosed => exact earlier (.inl rfl)
  | _ => simp at stopping

theorem Transition.returned_stopped {shared shared' : Shared} {before after : Control}
    {choice : Choice} (transition : Transition shared before choice shared' after)
    (stopping : before = .stopClose ∨ before = .stopNotify → shared.manager.state = .stopped)
    (kept : shared.history.stopReturned = true → shared'.manager.state = .stopped)
    (returned : shared'.history.stopReturned = true) : shared'.manager.state = .stopped := by
  cases transition with
  | stopReturned => exact stopping (.inr rfl)
  | _ => exact kept returned

theorem sane_step {config next : Config} {label : Nat × Choice} (sane : Sane config)
    (stepped : program.machine.step? config label = some next) : Sane next := by
  obtain ⟨before, after, step, transition⟩ := step_transition stepped
  have keeps := transition.keeps_stopped (sane.sound _ _ step.running)
  refine ⟨?_, ?_, ?_⟩
  · intro thread control found
    rcases step.thread_cases found with ⟨_, rfl⟩ | ⟨_, earlier⟩
    · exact transition.sound
    · exact sane.sound thread control earlier
  · intro thread control found stopping
    rcases step.thread_cases found with ⟨_, rfl⟩ | ⟨_, earlier⟩
    · exact transition.stopping_stopped (sane.stopping _ _ step.running) stopping
    · exact keeps (sane.stopping thread control earlier stopping)
  · exact transition.returned_stopped (sane.stopping _ _ step.running)
      (fun returned => keeps (sane.stopped returned))

theorem sane_of_run {permitted : Config → Nat × Choice → Prop} {threads : Nat} {config : Config}
    (run : program.machine.Run permitted (initial threads) config) : Sane config :=
  run.invariant (sane_initial threads) fun sane _ stepped => sane_step sane stepped

end RosPortal.Connection
