import RosPortal.Connection.Invariants

/-! Waking the waiters of the readiness barrier. Every update that releases the
barrier is followed by a `notify_all` of the same call, so no wakeup is lost. -/

set_option autoImplicit false

namespace RosPortal.Connection

open Interleaving

def Control.notifying : Control → Bool
  | .pollNotifyFailed | .notify | .stopNotify => true
  | _ => false

/-- The call is on its way to an update that releases the barrier, whatever its outcome. -/
def Control.releases : Control → Bool
  | .pollSchedule _ | .pollBeginSession _ | .pollTryConnect _ | .pollConnecting
  | .pollCloseFailed | .pollAdopt | .enable | .close | .stopClose => true
  | _ => false

section Transition

variable {shared shared' : Shared} {before after : Control} {choice : Choice}

/-- The barrier is released by its two releasing updates only, each of which notifies. -/
theorem Transition.notifies (transition : Transition shared before choice shared' after)
    (blocked : shared.manager.released = false) (released : shared'.manager.released = true) :
    after.notifying = true := by
  cases transition with
  | pollClosed | stopClosed | enabled | closed => rfl
  | pollBegun | disabled => cases released
  | _ => exact absurd (released.symm.trans blocked) (by simp)

theorem Transition.notified_cases (transition : Transition shared before choice shared' after)
    (notifying : before.notifying = true) :
    shared.manager.notifications < shared'.manager.notifications := by
  cases transition with
  | pollNotified | stopReturned | notified => exact Nat.lt_succ_self _
  | _ => cases notifying

theorem Transition.notifications_le (transition : Transition shared before choice shared' after) :
    shared.manager.notifications ≤ shared'.manager.notifications := by
  cases transition with
  | pollNotified | stopReturned | notified => exact Nat.le_succ _
  | _ => exact Nat.le_refl _

theorem Transition.releases_cases (transition : Transition shared before choice shared' after)
    (releases : before.releases = true) :
    after.releases = true ∨ shared'.manager.released = true := by
  cases transition with
  | pollScheduled | pollBegun | pollStarted | pollSucceeded | pollFailed | pollAdopted | pollLost =>
      exact .inl rfl
  | pollClosed | stopClosed | enabled | closed => exact .inr rfl
  | _ => cases releases

/-- The barrier is withdrawn by `beginSessionAttempt`, whose call releases it again,
and by `disableOperations`, whose call does not. -/
theorem Transition.unreleased_cases (transition : Transition shared before choice shared' after)
    (unreleased : shared'.manager.released = false) :
    shared.manager.released = false ∨ after.releases = true ∨ before = .disable := by
  cases transition with
  | pollBegun => exact .inr (.inl rfl)
  | disabled => exact .inr (.inr rfl)
  | pollClosed | stopClosed | enabled | closed => cases unreleased
  | _ => exact .inl unreleased

/-- A call blocks, or blocks again, after it has found the barrier unreleased. -/
theorem Transition.blocked_cases {began ticket closesSeen : Nat}
    (transition : Transition shared before choice shared' (.waitBlocked began ticket closesSeen)) :
    shared' = shared ∧ shared.manager.released = false ∧ ticket = shared.manager.notifications ∧
      ((before = .waitEnter began ∧ closesSeen = shared.history.closes) ∨
        ∃ earlier, before = .waitBlocked began earlier closesSeen) := by
  generalize target : Control.waitBlocked began ticket closesSeen = after at transition
  cases transition with
  | waitEntered _ blocked =>
      cases target
      exact ⟨rfl, blocked, rfl, .inl ⟨rfl, rfl⟩⟩
  | waitResumed _ earlier _ _ blocked =>
      cases target
      exact ⟨rfl, blocked, rfl, .inr ⟨earlier, rfl⟩⟩
  | _ => cases target

end Transition

/-- A blocked waiter whose predicate holds has been notified or is about to be. -/
structure WakeupInvariant (config : Config) : Prop where
  seen : ∀ (thread began ticket closesSeen : Nat),
    config.threads[thread]? = some (.waitBlocked began ticket closesSeen) →
    ticket ≤ config.shared.manager.notifications
  woken : ∀ (thread began ticket closesSeen : Nat),
    config.threads[thread]? = some (.waitBlocked began ticket closesSeen) →
    config.shared.manager.released = true →
    ticket < config.shared.manager.notifications ∨ config.Somewhere Control.notifying

theorem wakeupInvariant_initial (threads : Nat) : WakeupInvariant (initial threads) := by
  constructor
  · intro thread began ticket closesSeen found
    cases initial_thread found
  · intro thread began ticket closesSeen found
    cases initial_thread found

theorem wakeupInvariant_step {config next : Config} {label : Nat × Choice}
    (inv : WakeupInvariant config) (stepped : program.machine.step? config label = some next) :
    WakeupInvariant next := by
  obtain ⟨before, after, step, transition⟩ := step_transition stepped
  constructor
  · intro thread began ticket closesSeen found
    rcases step.thread_cases found with ⟨_, rfl⟩ | ⟨_, earlier⟩
    · obtain ⟨same, _, rfl, _⟩ := transition.blocked_cases
      exact Nat.le_of_eq (by rw [same])
    · exact Nat.le_trans (inv.seen _ _ _ _ earlier) transition.notifications_le
  · intro thread began ticket closesSeen found released
    rcases step.thread_cases found with ⟨_, rfl⟩ | ⟨_, earlier⟩
    · obtain ⟨same, blocked, _⟩ := transition.blocked_cases
      rw [same, blocked] at released
      cases released
    · have seen := inv.seen _ _ _ _ earlier
      cases wasReleased : config.shared.manager.released with
      | false => exact .inr (step.somewhere_arrived (transition.notifies wasReleased released))
      | true =>
          rcases inv.woken _ _ _ _ earlier wasReleased with notified | owing
          · exact .inl (Nat.lt_of_lt_of_le notified transition.notifications_le)
          · by_cases notifying : before.notifying = true
            · exact .inl (Nat.lt_of_le_of_lt seen (transition.notified_cases notifying))
            · exact .inr (step.somewhere_kept owing fun holds => absurd holds notifying)

theorem wakeupInvariant_of_run {permitted : Config → Nat × Choice → Prop} {threads : Nat}
    {config : Config} (run : program.machine.Run permitted (initial threads) config) :
    WakeupInvariant config :=
  run.invariant (wakeupInvariant_initial threads) fun inv _ stepped => wakeupInvariant_step inv stepped

end RosPortal.Connection
