import RosPortal.Connection.Health

/-! The reported connection health and the connection itself. While the diagnostics and
the manager take turns, every disagreement between them is an update that some thread
has still to make; an event that finds the manager in another state than the one it
speaks of leaves them apart for good. -/

set_option autoImplicit false

namespace RosPortal.Connection

open Interleaving

def Control.claiming : Control → Bool
  | .pollSchedule _ | .pollBeginSession _ | .pollTryConnect _ | .pollConnecting | .pollCloseFailed
  | .pollNotifyFailed | .pollReleaseFailed | .pollAdopt => true
  | _ => false

/-- The update that is due at a point of the manager. -/
def Control.Owes : Control → Option Mark → Prop
  | .reconnectingExchange, due | .disable, due => due = some .reconnecting
  | .reconnectedExchange, due => due = some .connected
  | .disconnectedLoad, due | .disconnectedExchange _, due => due = some .disconnected
  | .enable, _ | .close, _ | .notify, _ => True
  | .stopStore, _ | .stopClose, _ | .stopNotify, _ => False
  | _, due => due = none

def Phase.Coherent : Phase → Prop
  | .inside control due => control.Owes due
  | .marking _ => True

/-- Some thread has still to make an update of the given kind. -/
def ReportedConfig.Owing (config : ReportedConfig) (kind : Mark → Bool) : Prop :=
  config.Somewhere fun phase => phase.due.any kind

def Mark.gain (mark : Mark) : Bool := mark = .connected

def Mark.loss (mark : Mark) : Bool := mark ≠ .connected

/-- The diagnostics still say `Connected` after the manager's state has left it. -/
def lags (kind : HealthKind) (state : State) : Bool :=
  kind = .connected && state ≠ .connected && state ≠ .connecting

def Reported.behind (reported : Reported) : Bool :=
  lags reported.health.kind reported.shared.manager.state

/-- Every disagreement is an update that is still due. -/
structure ReportingInvariant (config : ReportedConfig) : Prop where
  coherent : ∀ (thread : Nat) (phase : Phase), config.threads[thread]? = some phase → phase.Coherent
  losses : config.shared.losses =
    config.shared.health.connectionLossCount + if config.shared.behind then 1 else 0
  gained : config.shared.shared.manager.state = .connected → config.shared.health.kind ≠ .connected →
    config.Owing Mark.gain
  left : config.shared.behind = true → config.Owing Mark.loss

section Manager

variable {shared shared' : Shared} {before after : Control} {choice : Choice}

/-- The manager is connecting only on behalf of a thread. -/
theorem Transition.connecting_cases (transition : Transition shared before choice shared' after)
    (connecting : shared'.manager.state = .connecting) :
    after.claiming = true ∨ (shared.manager.state = .connecting ∧ before.claiming = false) := by
  cases transition with
  | disconnectedLoaded | disconnected | disconnectedLeft | disconnectedRetried | eosLoaded
  | eosAfterDisconnect | eos | eosLeft | eosRetried | pollReleased | pollAdopted | reconnecting
  | reconnected | stopStored => simp_all [update, Control.claiming, Manager.markConnectionGained]
  | pollClaimed | pollScheduled | pollBegun | pollStarted | pollSucceeded | pollFailed | pollClosed
  | pollNotified => exact .inl rfl
  | pollOverruled other => exact absurd connecting other
  | pollLost other => exact absurd connecting other
  | _ => exact .inr ⟨connecting, rfl⟩

theorem claimed_of_reaches {threads : Nat} {config : Config}
    (run : program.machine.Reaches (initial threads) config)
    (connecting : config.shared.manager.state = .connecting) : config.Somewhere Control.claiming := by
  induction run with
  | refl => cases connecting
  | step _ _ stepped ih =>
      obtain ⟨before, after, step, transition⟩ := step_transition stepped
      rcases transition.connecting_cases connecting with claiming | ⟨earlier, other⟩
      · exact step.somewhere_arrived claiming
      · exact step.somewhere_kept (ih earlier) fun claiming => by simp [other] at claiming

/-- What is due follows the manager's steps. -/
theorem Transition.owes (transition : Transition shared before choice shared' after)
    {due : Option Mark} (notStop : choice ≠ .call .stop) (owed : before.Owes due) :
    after = .idle ∨ after.Owes (dueAfter before choice after due) := by
  cases transition with
  | callReconnecting entry enters | callReconnected entry enters | callDisconnected entry enters =>
      right
      cases entry with
      | onConnectionStateChanged state => cases state <;> simp_all [Entry.first, dueAfter, Entry.mark, Control.Owes]
      | _ => simp_all [Entry.first, dueAfter, Entry.mark, Control.Owes]
  | callStop => exact absurd rfl notStop
  | stopStored | stopClosed | stopReturned => exact owed.elim
  | callPoll | callEos | callWait => exact .inr rfl
  | pollIgnored | pollEarly | pollUnclaimed | pollReleased | pollOverruled | notReconnecting
  | notReconnected | disconnectedIgnored | disconnectedLeft | eosIgnored | eosAfterDisconnect
  | eosLeft | disabled | notified | waitSkipped | waitReturned => exact .inl rfl
  | pollAdopted | pollLost | reconnected | disconnected | eos | enabled | closed => exact .inr trivial
  | _ => exact .inr owed

theorem Transition.state_cases (transition : Transition shared before choice shared' after)
    {due : Option Mark} (owed : before.Owes due) :
    shared'.manager.state = shared.manager.state ∨
      shared'.manager.state = before.desired shared.manager.state := by
  cases transition with
  | pollClaimed _ free => simp [update, Control.desired, free]
  | pollReleased connecting | pollAdopted connecting =>
      simp [update, Control.desired, connecting, Manager.markConnectionGained]
  | reconnecting found | reconnected found =>
      simp [update, Control.desired, found, Manager.markConnectionGained]
  | disconnected previous found | eos previous found => simp [update, Control.desired, found]
  | eosAfterDisconnect found => simp [update, Control.desired, found]
  | stopStored => exact owed.elim
  | _ => exact .inl rfl

theorem Transition.gains (transition : Transition shared before choice shared' after)
    {due : Option Mark} (owed : before.Owes due) (earlier : shared.manager.state ≠ .connected)
    (connected : shared'.manager.state = .connected) :
    (dueAfter before choice after due).any Mark.gain = true := by
  cases transition with
  | pollAdopted => rfl
  | reconnected =>
      cases owed
      rfl
  | pollClaimed | pollReleased | reconnecting | disconnected | eosAfterDisconnect | eos | stopStored =>
      cases connected
  | _ => exact absurd connected earlier

theorem Transition.loses (transition : Transition shared before choice shared' after)
    {due : Option Mark} (owed : before.Owes due) (earlier : shared.manager.state = .connected)
    (left : shared'.manager.state ≠ .connected) :
    (dueAfter before choice after due).any Mark.loss = true := by
  cases transition with
  | pollClaimed _ free => exact absurd (earlier.symm.trans free) (by decide)
  | pollReleased connecting => exact absurd (earlier.symm.trans connecting) (by decide)
  | pollAdopted | reconnected => exact absurd rfl left
  | reconnecting | disconnected =>
      cases owed
      rfl
  | eosAfterDisconnect waiting => exact absurd (earlier.symm.trans waiting) (by decide)
  | eos => rfl
  | stopStored => exact owed.elim
  | _ => exact absurd earlier left

theorem Control.Owes.kept {mark : Mark} (owed : before.Owes (some mark)) :
    dueAfter before choice after (some mark) = some mark := by
  cases before with
  | idle | pollAdopt | eosExchange => cases owed
  | _ => simp [dueAfter]

end Manager

theorem desired_connected (control : Control) : control.desired .connected ≠ .connecting := by
  cases control with
  | disconnectedExchange previous | eosExchange previous =>
      by_cases same : State.connected = previous
      · simp [Control.desired, same]
      · simp [Control.desired, same]
  | _ => simp [Control.desired]

section Lag

variable {kind : HealthKind} {left entered : State}

/-- A move of the manager that comes in its turn is counted at once in the lag. -/
theorem lags_moved (turn : entered = left ∨ upToDate kind left entered = true)
    (elsewhere : left = .connected → entered ≠ .connecting) :
    (if lags kind entered then 1 else 0) =
      (if lags kind left then 1 else 0) +
        if left = .connected && entered ≠ .connected then 1 else 0 := by
  rcases turn with rfl | turn
  · simp
  · cases left <;> cases entered <;> cases kind <;> simp_all [upToDate, lags]

theorem lags_cases (turn : entered = left ∨ upToDate kind left entered = true)
    (behind : lags kind entered = true) :
    lags kind left = true ∨ (left = .connected ∧ entered ≠ .connected) := by
  rcases turn with rfl | turn
  · exact .inl behind
  · cases left <;> cases entered <;> simp_all [upToDate, lags]

theorem mark_settles {health : Health} {mark : Mark} {state : State}
    (agrees : mark.agrees health.kind state = true) :
    lags (health.mark mark).kind state = false ∧
      (health.mark mark).connectionLossCount =
        health.connectionLossCount + (if lags health.kind state then 1 else 0) ∧
      (state = .connected → (health.mark mark).kind = .connected) := by
  obtain ⟨kind, losses, reconnects⟩ := health
  cases mark <;> cases state <;> cases kind <;>
    simp_all [Mark.agrees, lags, Health.mark, Health.markConnected, Health.markReconnecting,
      Health.markDisconnected]

end Lag

theorem reportingInvariant_initial (threads : Nat) : ReportingInvariant (initialReported threads) := by
  constructor
  · intro thread phase found
    rw [List.eq_of_mem_replicate (List.mem_of_getElem? found)]
    rfl
  · rfl
  · intro connected
    cases connected
  · intro behind
    cases behind

section Step

variable {config next : ReportedConfig} {thread : Nat} {choice : Choice} {before after : Phase}

theorem ReportingInvariant.coherent_step (inv : ReportingInvariant config)
    (step : reportedProgram.StepOf config thread choice next before after)
    (moved : after.Coherent) (other : Nat) (phase : Phase)
    (found : next.threads[other]? = some phase) : phase.Coherent := by
  rcases step.thread_cases found with ⟨_, rfl⟩ | ⟨_, earlier⟩
  · exact moved
  · exact inv.coherent other phase earlier

theorem owing_kept {control moved : Control} {due : Option Mark}
    (step : reportedProgram.StepOf config thread choice next (.inside control due)
      (resume moved (dueAfter control choice moved due)))
    (owed : control.Owes due) {kind : Mark → Bool} (owing : config.Owing kind) : next.Owing kind := by
  apply step.somewhere_kept owing
  intro holds
  cases due with
  | none => cases holds
  | some mark =>
      rw [resume_due, owed.kept]
      exact holds

theorem owing_arrived {control moved : Control} {due : Option Mark}
    (step : reportedProgram.StepOf config thread choice next (.inside control due)
      (resume moved (dueAfter control choice moved due)))
    {kind : Mark → Bool} (holds : (dueAfter control choice moved due).any kind = true) :
    next.Owing kind := by
  apply step.somewhere_arrived
  rw [resume_due]
  exact holds

theorem ReportingInvariant.advanced (inv : ReportingInvariant config) {control moved : Control}
    {due : Option Mark} {shared : Shared}
    (step : reportedProgram.StepOf config thread choice next (.inside control due)
      (resume moved (dueAfter control choice moved due)))
    (updated : next.shared = { config.shared with
      shared := shared
      losses := config.shared.losses + if lost config.shared.shared shared then 1 else 0 })
    (transition : Transition config.shared.shared control choice shared moved)
    (notStop : choice ≠ .call .stop)
    (timely : (Phase.inside control due).timely config.shared = true) : ReportingInvariant next := by
  have owed : control.Owes due := inv.coherent _ _ step.running
  have moves := transition.state_cases owed
  have turn : shared.manager.state = config.shared.shared.manager.state ∨
      upToDate config.shared.health.kind config.shared.shared.manager.state shared.manager.state = true := by
    rcases moves with kept | moves
    · exact .inl kept
    · simp only [Phase.timely, Bool.or_eq_true, decide_eq_true_eq] at timely
      rw [← moves] at timely
      exact timely.imp_left Eq.symm
  have elsewhere : config.shared.shared.manager.state = .connected → shared.manager.state ≠ .connecting := by
    intro connected connecting
    rcases moves with kept | moves
    · exact absurd (connected.symm.trans (kept.symm.trans connecting)) (by decide)
    · rw [connected] at moves
      exact desired_connected control (moves.symm.trans connecting)
  constructor
  · apply inv.coherent_step step
    rcases transition.owes notStop owed with rfl | owes
    · cases dueAfter control choice .idle due with
      | none => rfl
      | some mark => trivial
    · cases found : dueAfter control choice moved due with
      | none => simpa [resume, found, Phase.Coherent] using owes
      | some mark =>
          by_cases idle : moved = .idle
          · simp [resume, idle, Phase.Coherent]
          · simpa [resume, idle, found, Phase.Coherent] using owes
  · have counted := lags_moved turn elsewhere
    have known : config.shared.losses = config.shared.health.connectionLossCount +
        if lags config.shared.health.kind config.shared.shared.manager.state then 1 else 0 := inv.losses
    rw [updated]
    change config.shared.losses + (if lost config.shared.shared shared then 1 else 0) =
      config.shared.health.connectionLossCount +
        if lags config.shared.health.kind shared.manager.state then 1 else 0
    rw [known, counted, Nat.add_assoc]
    rfl
  · rw [updated]
    intro connected notReported
    by_cases earlier : config.shared.shared.manager.state = .connected
    · exact owing_kept step owed (inv.gained earlier notReported)
    · exact owing_arrived step (transition.gains owed earlier connected)
  · rw [updated]
    intro behind
    rcases lags_cases turn behind with earlier | ⟨earlier, left⟩
    · exact owing_kept step owed (inv.left earlier)
    · exact owing_arrived step (transition.loses owed earlier left)

theorem ReportingInvariant.marked (inv : ReportingInvariant config) {mark : Mark}
    (step : reportedProgram.StepOf config thread choice next (.marking mark) (.inside .idle none))
    (updated : next.shared = { config.shared with health := config.shared.health.mark mark })
    (timely : (Phase.marking mark).timely config.shared = true) : ReportingInvariant next := by
  obtain ⟨reported, counted, kept⟩ := mark_settles timely
  constructor
  · exact inv.coherent_step step rfl
  · rw [updated]
    simp only [Reported.behind, reported, counted]
    exact inv.losses
  · rw [updated]
    intro connected notReported
    exact absurd (kept connected) notReported
  · rw [updated]
    intro behind
    exact absurd behind (Bool.not_eq_true _ ▸ reported)

end Step

theorem reportingInvariant_step {config next : ReportedConfig} {label : Nat × Choice}
    (inv : ReportingInvariant config) (turn : TakesTurns config label)
    (stepped : reportedProgram.machine.step? config label = some next) : ReportingInvariant next := by
  obtain ⟨before, after, step⟩ := Program.stepOf stepped
  have timely := turn.2 before step.running
  obtain ⟨thread, choice⟩ := label
  obtain ⟨reported, threads⟩ := next
  have advanced := advanceReported_step step.advanced
  cases advanced with
  | manager transition => exact inv.advanced step rfl transition turn.1 timely
  | marked => exact inv.marked step rfl timely

theorem reportingInvariant_of_run {threads : Nat} {config : ReportedConfig}
    (run : reportedProgram.machine.Run TakesTurns (initialReported threads) config) :
    ReportingInvariant config :=
  run.invariant (reportingInvariant_initial threads) reportingInvariant_step

theorem Phase.busy_of_due {phase : Phase} (coherent : phase.Coherent) {kind : Mark → Bool}
    (owing : phase.due.any kind = true) : phase.busy = true := by
  cases phase with
  | marking mark => rfl
  | inside control due =>
      cases due with
      | none => cases owing
      | some mark =>
          cases control with
          | idle | waitEnter | waitBlocked => cases coherent
          | _ => rfl

theorem ReportingInvariant.nothing_due {config : ReportedConfig} (inv : ReportingInvariant config)
    (noCall : NoCall config) (kind : Mark → Bool) : ¬ config.Owing kind := by
  intro owing
  obtain ⟨thread, phase, found, due⟩ := owing.thread
  have busy := Phase.busy_of_due (inv.coherent thread phase found) due
  rw [noCall.thread found] at busy
  cases busy

theorem not_connecting_of_noCall {permitted : ReportedConfig → Nat × Choice → Prop} {threads : Nat}
    {config : ReportedConfig}
    (run : reportedProgram.machine.Run permitted (initialReported threads) config)
    (noCall : NoCall config) : config.shared.shared.manager.state ≠ .connecting := by
  intro connecting
  obtain ⟨control, member, claiming⟩ := claimed_of_reaches (manager_of_run run) connecting
  obtain ⟨phase, present, rfl⟩ := List.mem_map.mp member
  have idle := noCall phase present
  cases phase with
  | marking mark => cases idle
  | inside control due =>
      cases control with
      | idle | waitEnter | waitBlocked => cases claiming
      | _ => cases idle

/-- The diagnostics agree with the manager whenever no call is in progress, in every run
in which the two take turns. -/
theorem health_agrees_of_turns (threads : Nat) (config : ReportedConfig)
    (run : reportedProgram.machine.Run TakesTurns (initialReported threads) config)
    (noCall : NoCall config) : HealthAgrees config.shared := by
  have inv := reportingInvariant_of_run run
  have notConnecting := not_connecting_of_noCall run noCall
  have caughtUp : config.shared.behind = false := by
    cases behind : config.shared.behind with
    | false => rfl
    | true => exact absurd (inv.left behind) (inv.nothing_due noCall _)
  constructor
  · constructor
    · intro reported
      simpa [Reported.behind, lags, reported, notConnecting] using caughtUp
    · intro connected
      by_contra unreported
      exact inv.nothing_due noCall _ (inv.gained connected unreported)
  · have counted := inv.losses
    rw [caughtUp] at counted
    exact counted.symm

def joinReported (thread : Nat) : List (Nat × Choice) :=
  (thread, .call .poll) :: (thread, .proceed) :: (thread, .time 0) ::
    List.replicate 5 (thread, .proceed) ++ [(thread, .connected true)] ++
    List.replicate 4 (thread, .proceed)

/-- An in-session reconnect, each event handled before the next. -/
def reconnectReported (thread : Nat) : List (Nat × Choice) :=
  (thread, .call .onReconnecting) :: List.replicate 3 (thread, .proceed) ++
    (thread, .call .onReconnected) :: List.replicate 4 (thread, .proceed)

theorem health_agrees_after_reconnect :
    ∃ config : ReportedConfig,
      reportedProgram.machine.Run TakesTurns (initialReported 2) config ∧
        config.shared.losses = 1 ∧ NoCall config ∧ HealthAgrees config.shared := by
  obtain ⟨config, run, lost, noCall⟩ := Machine.Run.exists_of_exec reportedProgram.machine TakesTurns
    (initialReported 2) (joinReported 0 ++ reconnectReported 1)
    (fun config => config.shared.losses = 1 ∧ NoCall config) (by decide +kernel)
  exact ⟨config, run, lost, noCall, health_agrees_of_turns 2 config run noCall⟩

/-- The SDK says `Connected` while `try_connect` is still running and then fails. -/
def connectedDuringFailure : List (Nat × Choice) :=
  (0, .call .poll) :: (0, .proceed) :: (0, .time 0) :: List.replicate 5 (0, .proceed) ++
    (1, .call (.onConnectionStateChanged .connected)) :: List.replicate 2 (1, .proceed) ++
    (0, .connected false) :: List.replicate 3 (0, .proceed)

theorem health_disagrees_after_failure :
    ∃ config : ReportedConfig,
      reportedProgram.machine.Run NotStopped (initialReported 2) config ∧
        NoCall config ∧ ¬ HealthAgrees config.shared := by
  obtain ⟨config, run, noCall, reported, disconnected⟩ := Machine.Run.exists_of_exec
    reportedProgram.machine NotStopped (initialReported 2) connectedDuringFailure
    (fun config => NoCall config ∧ config.shared.health.kind = .connected ∧
      config.shared.shared.manager.state = .disconnected) (by decide +kernel)
  refine ⟨config, run, noCall, ?_⟩
  intro agrees
  have connected := agrees.kind.mp reported
  rw [disconnected] at connected
  cases connected

end RosPortal.Connection
