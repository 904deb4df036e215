import RosPortal.Connection.Manager

/-! Everything one step of a thread can do, one constructor for each outcome of
each atomic operation. Invariants are proved by cases over it. -/

set_option autoImplicit false

namespace RosPortal.Connection

open Interleaving

/-- The states in which the barrier is meant to be closed. -/
def State.ended : State → Bool
  | .disconnected | .waitingForRoomEos | .stopped => true
  | .connecting | .connected | .reconnecting => false

/-- The steps of `advance`, with the guard under which each is taken. -/
inductive Transition (shared : Shared) : Control → Choice → Shared → Control → Prop where
  | callPoll : Transition shared .idle (.call .poll) shared .pollLoad
  | callReconnecting (entry : Entry) : entry.first shared.history.sessions = .reconnectingExchange →
      Transition shared .idle (.call entry) shared .reconnectingExchange
  | callReconnected (entry : Entry) : entry.first shared.history.sessions = .reconnectedExchange →
      Transition shared .idle (.call entry) shared .reconnectedExchange
  | callDisconnected (entry : Entry) : entry.first shared.history.sessions = .disconnectedLoad →
      Transition shared .idle (.call entry) shared .disconnectedLoad
  | callEos : Transition shared .idle (.call .onRoomEos) shared .eosLoad
  | callStop : Transition shared .idle (.call .stop) shared .stopStore
  | callWait :
      Transition shared .idle (.call .waitForOperations) shared (.waitEnter shared.history.sessions)
  | pollLoaded : shared.manager.state = .disconnected →
      Transition shared .pollLoad .proceed shared .pollNow
  | pollIgnored : shared.manager.state ≠ .disconnected →
      Transition shared .pollLoad .proceed shared .idle
  | pollTimed (now : Int) : shared.history.clock ≤ now →
      Transition shared .pollNow (.time now)
        { shared with history := { shared.history with clock := now } } (.pollDeadline now)
  | pollEarly (now : Int) : now < shared.manager.nextAttemptAt →
      Transition shared (.pollDeadline now) .proceed shared .idle
  | pollDue (now : Int) : shared.manager.nextAttemptAt ≤ now →
      Transition shared (.pollDeadline now) .proceed shared (.pollClaim now)
  | pollClaimed (now : Int) : shared.manager.state = .disconnected →
      Transition shared (.pollClaim now) .proceed
        (update shared { shared.manager with state := .connecting }) (.pollSchedule now)
  | pollUnclaimed (now : Int) : shared.manager.state ≠ .disconnected →
      Transition shared (.pollClaim now) .proceed shared .idle
  | pollScheduled (now : Int) :
      Transition shared (.pollSchedule now) .proceed
        (update shared { shared.manager with nextAttemptAt := now + kRetryInterval })
        (.pollBeginSession now)
  | pollBegun (now : Int) :
      Transition shared (.pollBeginSession now) .proceed
        { shared with
          manager := shared.manager.beginSessionAttempt
          history := { shared.history with sessions := shared.history.sessions + 1 } }
        (.pollTryConnect now)
  | pollStarted (now : Int) :
      Transition shared (.pollTryConnect now) .proceed
        { shared with history := { shared.history with
          starts := ⟨now, shared.manager.state, shared.history.stopReturned⟩ ::
            shared.history.starts } } .pollConnecting
  | pollSucceeded : Transition shared .pollConnecting (.connected true) shared .pollAdopt
  | pollFailed : Transition shared .pollConnecting (.connected false) shared .pollCloseFailed
  | pollClosed : Transition shared .pollCloseFailed .proceed (close shared) .pollNotifyFailed
  | pollNotified :
      Transition shared .pollNotifyFailed .proceed (update shared shared.manager.notifyAll)
        .pollReleaseFailed
  | pollReleased : shared.manager.state = .connecting →
      Transition shared .pollReleaseFailed .proceed
        (update shared { shared.manager with state := .disconnected }) .idle
  | pollOverruled : shared.manager.state ≠ .connecting →
      Transition shared .pollReleaseFailed .proceed shared .idle
  | pollAdopted : shared.manager.state = .connecting →
      Transition shared .pollAdopt .proceed
        (update shared ({ shared.manager with state := .connected } : Manager).markConnectionGained)
        .enable
  | pollLost : shared.manager.state ≠ .connecting →
      Transition shared .pollAdopt .proceed shared .close
  | reconnecting : shared.manager.state = .connected →
      Transition shared .reconnectingExchange .proceed
        (update shared { shared.manager with state := .reconnecting }) .disable
  | notReconnecting : shared.manager.state ≠ .connected →
      Transition shared .reconnectingExchange .proceed shared .idle
  | reconnected : shared.manager.state = .reconnecting →
      Transition shared .reconnectedExchange .proceed
        (update shared ({ shared.manager with state := .connected } : Manager).markConnectionGained)
        .enable
  | notReconnected : shared.manager.state ≠ .reconnecting →
      Transition shared .reconnectedExchange .proceed shared .idle
  | disconnectedIgnored : shared.manager.state.ended = true →
      Transition shared .disconnectedLoad .proceed shared .idle
  | disconnectedLoaded : shared.manager.state.ended = false →
      Transition shared .disconnectedLoad .proceed shared (.disconnectedExchange shared.manager.state)
  | disconnected (previous : State) : shared.manager.state = previous →
      Transition shared (.disconnectedExchange previous) .proceed
        (update shared { shared.manager with state := .waitingForRoomEos }) .close
  | disconnectedLeft (previous : State) (choice : Choice) : shared.manager.state.ended = true →
      Transition shared (.disconnectedExchange previous) choice shared .idle
  | disconnectedRetried (previous : State) (choice : Choice) : shared.manager.state.ended = false →
      Transition shared (.disconnectedExchange previous) choice shared
        (.disconnectedExchange shared.manager.state)
  | eosIgnored : shared.manager.state = .stopped ∨ shared.manager.state = .disconnected →
      Transition shared .eosLoad .proceed shared .idle
  | eosLoaded : shared.manager.state ≠ .stopped → shared.manager.state ≠ .disconnected →
      Transition shared .eosLoad .proceed shared (.eosExchange shared.manager.state)
  | eosAfterDisconnect : shared.manager.state = .waitingForRoomEos →
      Transition shared (.eosExchange .waitingForRoomEos) .proceed
        (update shared { shared.manager with state := .disconnected }) .idle
  | eos (previous : State) : shared.manager.state = previous → previous ≠ .waitingForRoomEos →
      Transition shared (.eosExchange previous) .proceed
        (update shared { shared.manager with state := .disconnected }) .close
  | eosLeft (previous : State) (choice : Choice) :
      shared.manager.state = .stopped ∨ shared.manager.state = .disconnected →
      Transition shared (.eosExchange previous) choice shared .idle
  | eosRetried (previous : State) (choice : Choice) :
      shared.manager.state ≠ .stopped → shared.manager.state ≠ .disconnected →
      Transition shared (.eosExchange previous) choice shared (.eosExchange shared.manager.state)
  | stopStored :
      Transition shared .stopStore .proceed
        (update shared { shared.manager with state := .stopped }) .stopClose
  | stopClosed : Transition shared .stopClose .proceed (close shared) .stopNotify
  | stopReturned :
      Transition shared .stopNotify .proceed
        { shared with
          manager := shared.manager.notifyAll
          history := { shared.history with stopReturned := true } } .idle
  | enabled :
      Transition shared .enable .proceed (update shared shared.manager.enableOperations) .notify
  | disabled :
      Transition shared .disable .proceed (update shared shared.manager.disableOperations) .idle
  | closed : Transition shared .close .proceed (close shared) .notify
  | notified : Transition shared .notify .proceed (update shared shared.manager.notifyAll) .idle
  | waitSkipped (began : Nat) : shared.manager.released = true →
      Transition shared (.waitEnter began) .proceed
        (returnFromWait shared began false).1 .idle
  | waitEntered (began : Nat) : shared.manager.released = false →
      Transition shared (.waitEnter began) .proceed shared
        (.waitBlocked began shared.manager.notifications shared.history.closes)
  | waitReturned (began ticket closesSeen : Nat) (choice : Choice) :
      shared.manager.released = true →
      Transition shared (.waitBlocked began ticket closesSeen) choice
        (returnFromWait shared began (closesSeen < shared.history.closes)).1 .idle
  | waitResumed (began ticket closesSeen : Nat) (choice : Choice) :
      shared.manager.released = false →
      Transition shared (.waitBlocked began ticket closesSeen) choice shared
        (.waitBlocked began shared.manager.notifications closesSeen)

/-- An exchange installs the desired state or has found another than the expected one. -/
theorem Manager.compareExchange_cases (manager : Manager) (expected desired : State) :
    (manager.state = expected ∧
      manager.compareExchange expected desired = some { manager with state := desired }) ∨
    (manager.state ≠ expected ∧ manager.compareExchange expected desired = none) := by
  by_cases same : manager.state = expected
  · exact .inl ⟨same, if_pos same⟩
  · exact .inr ⟨same, if_neg same⟩

private theorem disconnectedLoop_eq (previous : State) :
    disconnectedLoop previous = if previous.ended then .idle else .disconnectedExchange previous := by
  cases previous <;> rfl

private theorem disconnected_transition {shared shared' : Shared} {before after : Control}
    {choice : Choice} (left : shared.manager.state.ended = true → Transition shared before choice shared .idle)
    (tried : shared.manager.state.ended = false →
      Transition shared before choice shared (.disconnectedExchange shared.manager.state))
    (advanced : some (shared, disconnectedLoop shared.manager.state) = some (shared', after)) :
    Transition shared before choice shared' after := by
  rw [disconnectedLoop_eq] at advanced
  split at advanced
  · cases advanced
    exact left ‹_›
  · cases advanced
    exact tried (Bool.not_eq_true _ ▸ ‹_›)

private theorem eos_transition {shared shared' : Shared} {before after : Control} {choice : Choice}
    (left : shared.manager.state = .stopped ∨ shared.manager.state = .disconnected →
      Transition shared before choice shared .idle)
    (tried : shared.manager.state ≠ .stopped → shared.manager.state ≠ .disconnected →
      Transition shared before choice shared (.eosExchange shared.manager.state))
    (advanced : some (shared, eosLoop shared.manager.state) = some (shared', after)) :
    Transition shared before choice shared' after := by
  unfold eosLoop at advanced
  split at advanced
  · cases advanced
    exact left ‹_›
  · cases advanced
    obtain ⟨notStopped, notDisconnected⟩ := not_or.mp ‹_›
    exact tried notStopped notDisconnected

private theorem wait_transition {shared shared' : Shared} {began ticket closesSeen : Nat}
    {after : Control} {choice : Choice}
    (advanced : advance shared (.waitBlocked began ticket closesSeen) choice = some (shared', after)) :
    Transition shared (.waitBlocked began ticket closesSeen) choice shared' after := by
  simp only [advance] at advanced
  split at advanced
  · split at advanced
    · cases advanced
      exact .waitReturned began ticket closesSeen choice ‹_›
    · cases advanced
      exact .waitResumed began ticket closesSeen choice (Bool.not_eq_true _ ▸ ‹_›)
  · cases advanced

theorem advance_transition {shared shared' : Shared} {before after : Control} {choice : Choice}
    (advanced : advance shared before choice = some (shared', after)) :
    Transition shared before choice shared' after := by
  -- Straight-line steps reduce to their constructor; the named cases below branch.
  cases before <;> cases choice <;> try cases advanced
  case idle.call.refl entry =>
    cases entry with
    | onConnectionStateChanged state => cases state <;> constructor <;> rfl
    | _ => constructor <;> rfl
  case pollLoad.proceed.refl =>
    split
    · exact .pollLoaded ‹_›
    · exact .pollIgnored ‹_›
  case pollNow.time now =>
    simp only [advance] at advanced
    split at advanced
    · cases advanced
      exact .pollTimed now ‹_›
    · cases advanced
  case pollDeadline.proceed.refl now =>
    split
    · exact .pollEarly now ‹_›
    · exact .pollDue now (Int.not_lt.mp ‹_›)
  case pollClaim.proceed now =>
    obtain ⟨same, exchange⟩ | ⟨other, exchange⟩ := shared.manager.compareExchange_cases .disconnected .connecting
    · simp only [advance, exchange] at advanced
      cases advanced
      exact .pollClaimed now same
    · simp only [advance, exchange] at advanced
      cases advanced
      exact .pollUnclaimed now other
  case pollConnecting.connected.refl success =>
    cases success
    · exact .pollFailed
    · exact .pollSucceeded
  case pollReleaseFailed.proceed =>
    obtain ⟨same, exchange⟩ | ⟨other, exchange⟩ := shared.manager.compareExchange_cases .connecting .disconnected
    · simp only [advance, exchange] at advanced
      cases advanced
      exact .pollReleased same
    · simp only [advance, exchange] at advanced
      cases advanced
      exact .pollOverruled other
  case pollAdopt.proceed =>
    obtain ⟨same, exchange⟩ | ⟨other, exchange⟩ := shared.manager.compareExchange_cases .connecting .connected
    · simp only [advance, exchange] at advanced
      cases advanced
      exact .pollAdopted same
    · simp only [advance, exchange] at advanced
      cases advanced
      exact .pollLost other
  case reconnectingExchange.proceed =>
    obtain ⟨same, exchange⟩ | ⟨other, exchange⟩ := shared.manager.compareExchange_cases .connected .reconnecting
    · simp only [advance, exchange] at advanced
      cases advanced
      exact .reconnecting same
    · simp only [advance, exchange] at advanced
      cases advanced
      exact .notReconnecting other
  case reconnectedExchange.proceed =>
    obtain ⟨same, exchange⟩ | ⟨other, exchange⟩ := shared.manager.compareExchange_cases .reconnecting .connected
    · simp only [advance, exchange] at advanced
      cases advanced
      exact .reconnected same
    · simp only [advance, exchange] at advanced
      cases advanced
      exact .notReconnected other
  case disconnectedExchange.proceed previous =>
    obtain ⟨same, exchange⟩ | ⟨_, exchange⟩ := shared.manager.compareExchange_cases previous .waitingForRoomEos
    · simp only [advance, exchange] at advanced
      cases advanced
      exact .disconnected previous same
    · simp only [advance, exchange] at advanced
      exact disconnected_transition (.disconnectedLeft previous _) (.disconnectedRetried previous _)
        advanced
  case eosExchange.proceed previous =>
    obtain ⟨same, exchange⟩ | ⟨_, exchange⟩ := shared.manager.compareExchange_cases previous .disconnected
    · simp only [advance, exchange] at advanced
      cases advanced
      by_cases closedBefore : previous = .waitingForRoomEos
      · subst closedBefore
        exact .eosAfterDisconnect same
      · rw [if_neg closedBefore]
        exact .eos previous same closedBefore
    · simp only [advance, exchange] at advanced
      exact eos_transition (.eosLeft previous _) (.eosRetried previous _) advanced
  case disconnectedLoad.proceed.refl =>
    exact disconnected_transition .disconnectedIgnored .disconnectedLoaded rfl
  case disconnectedExchange.spurious.refl previous =>
    exact disconnected_transition (.disconnectedLeft previous _) (.disconnectedRetried previous _) rfl
  case eosLoad.proceed.refl => exact eos_transition .eosIgnored .eosLoaded rfl
  case eosExchange.spurious.refl previous =>
    exact eos_transition (.eosLeft previous _) (.eosRetried previous _) rfl
  case waitEnter.proceed began =>
    simp only [advance] at advanced
    split at advanced
    · cases advanced
      exact .waitSkipped began ‹_›
    · cases advanced
      exact .waitEntered began (Bool.not_eq_true _ ▸ ‹_›)
  case waitBlocked.proceed began ticket closesSeen => exact wait_transition advanced
  case waitBlocked.spurious began ticket closesSeen => exact wait_transition advanced
  all_goals constructor

/-- A step of a pool is a transition of the thread that its label names. -/
theorem step_transition {config next : Config} {label : Nat × Choice}
    (stepped : program.machine.step? config label = some next) :
    ∃ before after, program.StepOf config label.1 label.2 next before after ∧
      Transition config.shared before label.2 next.shared after := by
  obtain ⟨before, after, step⟩ := Program.stepOf stepped
  exact ⟨before, after, step, advance_transition step.advanced⟩

end RosPortal.Connection
