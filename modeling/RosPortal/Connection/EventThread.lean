import RosPortal.Connection.Barrier
import RosPortal.Connection.Wakeups

/-! The room event thread. Room callbacks run one at a time on thread 0 and wait
there for the readiness barrier; connection attempts run on the other threads. -/

set_option autoImplicit false

namespace RosPortal.Connection

open Interleaving

/-- The room callbacks of the portal, with what their guards read of the event. -/
inductive RoomEvent where
  | connectionStateChanged (state : SdkConnectionState)
  | reconnecting
  | reconnected
  | disconnected
  | roomEos
  | dataTrackPublished (track : Bool)
  | trackSubscribed (track video participant : Bool)
deriving DecidableEq, Repr

/-- What the handler of an event calls in the manager, if anything. -/
def RoomEvent.entry : RoomEvent → Option Entry
  | .connectionStateChanged state => some (.onConnectionStateChanged state)
  | .reconnecting => some .onReconnecting
  | .reconnected => some .onReconnected
  | .disconnected => some .onDisconnected
  | .roomEos => some .onRoomEos
  | .dataTrackPublished track => if track then some .waitForOperations else none
  | .trackSubscribed track video participant =>
      if track && video && participant then some .waitForOperations else none

def Entry.FromRoom (entry : Entry) : Prop := ∃ event : RoomEvent, event.entry = some entry

theorem Entry.fromRoom_iff (entry : Entry) : entry.FromRoom ↔ entry ≠ .poll ∧ entry ≠ .stop := by
  constructor
  · intro handles
    obtain ⟨event, handled⟩ := handles
    cases event <;> simp_all [RoomEvent.entry] <;> grind
  · intro neither
    obtain ⟨notPoll, notStop⟩ := neither
    cases entry with
    | poll => exact absurd rfl notPoll
    | stop => exact absurd rfl notStop
    | onConnectionStateChanged state => exact ⟨.connectionStateChanged state, rfl⟩
    | onReconnecting => exact ⟨.reconnecting, rfl⟩
    | onReconnected => exact ⟨.reconnected, rfl⟩
    | onDisconnected => exact ⟨.disconnected, rfl⟩
    | onRoomEos => exact ⟨.roomEos, rfl⟩
    | waitForOperations => exact ⟨.dataTrackPublished true, rfl⟩

instance (entry : Entry) : Decidable entry.FromRoom := decidable_of_iff _ entry.fromRoom_iff.symm

/-- Which calls a thread makes before shutdown: thread 0 serves the room events, the
other threads are ticks of the connection timer. -/
def RoomSchedule (_ : Config) (label : Nat × Choice) : Prop :=
  match label.2 with
  | .call entry => if label.1 = 0 then entry.FromRoom else entry = .poll
  | _ => True

instance (config : Config) (label : Nat × Choice) : Decidable (RoomSchedule config label) := by
  unfold RoomSchedule
  split <;> infer_instance

/-- The call is about to check the predicate of its wait for the first time. -/
def Control.entering : Control → Bool
  | .waitEnter _ => true
  | _ => false

/-- No room callback starts to wait in `Reconnecting` unless an attempt that is still
running will release the barrier. -/
def WaitGuarded (config : Config) (label : Nat × Choice) : Prop :=
  ∀ control ∈ config.threads[label.1]?, control.entering = true →
    config.shared.manager.released = false → config.shared.manager.state = .reconnecting →
    config.Somewhere Control.releases

instance (config : Config) (label : Nat × Choice) : Decidable (WaitGuarded config label) :=
  inferInstanceAs (Decidable (∀ control ∈ config.threads[label.1]?, _ → _ → _ → _))

/-- Only the connection timer runs; no further room event is processed. -/
def TimerOnly (config : Config) (label : Nat × Choice) : Prop :=
  label.1 ≠ 0 ∧ RoomSchedule config label

def CanReturn (config : Config) (thread : Nat) : Prop :=
  ∃ began ticket closesSeen, config.threads[thread]? = some (.waitBlocked began ticket closesSeen) ∧
    config.shared.manager.released = true ∧ ticket < config.shared.manager.notifications

/-- The event thread is blocked and the connection timer alone cannot release it. -/
structure Wedged (config : Config) : Prop where
  blocked : ∃ began ticket closesSeen,
    config.threads[0]? = some (.waitBlocked began ticket closesSeen)
  stuck : ∀ final, program.machine.Run TimerOnly config final → ¬ CanReturn final 0

def Control.polling : Control → Bool
  | .idle | .pollLoad | .pollNow | .pollDeadline _ | .pollClaim _ | .pollSchedule _
  | .pollBeginSession _ | .pollTryConnect _ | .pollConnecting | .pollCloseFailed
  | .pollNotifyFailed | .pollReleaseFailed | .pollAdopt | .enable | .close | .notify => true
  | _ => false

section Transition

variable {shared shared' : Shared} {before after : Control} {choice : Choice}

theorem Transition.polling (transition : Transition shared before choice shared' after)
    (polling : before.polling = true) (polls : ∀ entry, choice = .call entry → entry = .poll) :
    after.polling = true := by
  cases transition with
  | callReconnecting entry | callReconnected entry | callDisconnected entry =>
      cases polls entry rfl
      contradiction
  | callEos | callStop | callWait => cases polls _ rfl
  | _ => first | rfl | cases polling

theorem Transition.keeps_reconnecting (transition : Transition shared before choice shared' after)
    (polling : before.polling = true) (lost : shared.manager.state = .reconnecting) :
    shared'.manager.state = .reconnecting := by
  cases transition with
  | pollClaimed now free => simp [lost] at free
  | pollReleased held => simp [lost] at held
  | pollAdopted held => simp [lost] at held
  | reconnecting | reconnected | disconnected | eosAfterDisconnect | eos | stopStored => cases polling
  | _ => exact lost

theorem Transition.leaves_reconnecting (transition : Transition shared before choice shared' after)
    (lost : shared.manager.state = .reconnecting) :
    shared'.manager.state = .reconnecting ∨ after.releases = true := by
  cases transition with
  | reconnected | disconnected | eos | stopStored | pollAdopted => exact .inr rfl
  | pollClaimed now free => simp [lost] at free
  | pollReleased held => simp [lost] at held
  | eosAfterDisconnect waiting => simp [lost] at waiting
  | _ => exact .inl (by first | exact lost | rfl)

theorem Transition.disabling (transition : Transition shared before choice shared' .disable) :
    shared'.manager.state = .reconnecting := by
  generalize target : Control.disable = after at transition
  cases transition with
  | reconnecting => rfl
  | _ => cases target

theorem Transition.disable_state (transition : Transition shared .disable choice shared' after) :
    shared'.manager.state = shared.manager.state := by
  cases transition
  rfl

/-- Polls leave a barrier that was withdrawn in `Reconnecting` alone, unless one of
them was already on its way to release it. -/
theorem Transition.stays_stuck (transition : Transition shared before choice shared' after)
    (polling : before.polling = true) (polls : ∀ entry, choice = .call entry → entry = .poll)
    (calm : before.releases = false) (lost : shared.manager.state = .reconnecting)
    (blocked : shared.manager.released = false) :
    shared'.manager.released = false ∧ after.releases = false := by
  cases transition with
  | pollClaimed now free => simp [lost] at free
  | callReconnecting entry | callReconnected entry | callDisconnected entry =>
      cases polls entry rfl
      contradiction
  | reconnecting | reconnected | disconnected | eos | stopStored | disabled => cases polling
  | _ => first | exact ⟨blocked, rfl⟩ | cases calm

end Transition

/-- What holds of every run of room events and polls: an unreleased barrier is
either to be released by a call in progress or was withdrawn by a reconnect. -/
structure RoomInvariant (config : Config) : Prop where
  timers : ∀ (thread : Nat) (control : Control), thread ≠ 0 →
    config.threads[thread]? = some control → control.polling = true
  disabling : config.threads[0]? = some .disable → config.shared.manager.state = .reconnecting
  unreleased : config.shared.manager.released = false →
    config.Somewhere Control.releases ∨ config.shared.manager.state = .reconnecting

theorem roomInvariant_initial (threads : Nat) : RoomInvariant (initial threads) := by
  refine ⟨?_, ?_, by simp [initial, Manager.released]⟩
  · intro thread control _ found
    rw [initial_thread found]
    rfl
  · intro found
    cases initial_thread found

theorem RoomSchedule.polls {config : Config} {label : Nat × Choice}
    (scheduled : RoomSchedule config label) (timer : label.1 ≠ 0) :
    ∀ entry, label.2 = .call entry → entry = .poll := by
  intro entry called
  simpa [RoomSchedule, called, timer] using scheduled

section Step

variable {config next : Config} {thread : Nat} {choice : Choice} {before after : Control}

theorem RoomInvariant.kept_or_released
    (step : program.StepOf config thread choice next before after)
    (transition : Transition config.shared before choice next.shared after)
    (releasing : config.Somewhere Control.releases) (blocked : next.shared.manager.released = false) :
    next.Somewhere Control.releases := by
  by_cases releases : before.releases = true
  · rcases transition.releases_cases releases with ahead | released
    · exact step.somewhere_arrived ahead
    · rw [blocked] at released
      cases released
  · exact step.somewhere_kept releasing fun holds => absurd holds releases

end Step

theorem roomInvariant_step {config next : Config} {label : Nat × Choice} (inv : RoomInvariant config)
    (scheduled : RoomSchedule config label)
    (stepped : program.machine.step? config label = some next) : RoomInvariant next := by
  obtain ⟨before, after, step, transition⟩ := step_transition stepped
  refine ⟨?_, ?_, ?_⟩
  · intro thread control timer found
    rcases step.thread_cases found with ⟨rfl, rfl⟩ | ⟨_, earlier⟩
    · exact transition.polling (inv.timers _ _ timer step.running) (scheduled.polls timer)
    · exact inv.timers thread control timer earlier
  · intro found
    rcases step.thread_cases found with ⟨_, rfl⟩ | ⟨different, earlier⟩
    · exact transition.disabling
    · exact transition.keeps_reconnecting (inv.timers _ _ different.symm step.running)
        (inv.disabling earlier)
  · intro blocked
    rcases transition.unreleased_cases blocked with earlier | releases | rfl
    · rcases inv.unreleased earlier with releasing | lost
      · exact .inl (RoomInvariant.kept_or_released step transition releasing blocked)
      · rcases transition.leaves_reconnecting lost with still | releases
        · exact .inr still
        · exact .inl (step.somewhere_arrived releases)
    · exact .inl (step.somewhere_arrived releases)
    · by_cases timer : label.1 = 0
      · have lost := inv.disabling (timer ▸ step.running)
        exact .inr (transition.disable_state.trans lost)
      · cases inv.timers _ _ timer step.running

theorem roomInvariant_of_run {permitted : Config → Nat × Choice → Prop} {threads : Nat}
    {config : Config} (scheduled : ∀ state label, permitted state label → RoomSchedule state label)
    (run : program.machine.Run permitted (initial threads) config) : RoomInvariant config :=
  run.invariant (roomInvariant_initial threads) fun inv allowed stepped =>
    roomInvariant_step inv (scheduled _ _ allowed) stepped

/-- The schedule of the room in which every wait is guarded. -/
def GuardedSchedule (config : Config) (label : Nat × Choice) : Prop :=
  RoomSchedule config label ∧ WaitGuarded config label

instance (config : Config) (label : Nat × Choice) : Decidable (GuardedSchedule config label) :=
  inferInstanceAs (Decidable (_ ∧ _))

/-- A blocked event thread has a call in progress that releases the barrier. -/
def WaitInvariant (config : Config) : Prop :=
  ∀ began ticket closesSeen, config.threads[0]? = some (.waitBlocked began ticket closesSeen) →
    config.shared.manager.released = false → config.Somewhere Control.releases

theorem waitInvariant_step {config next : Config} {label : Nat × Choice} (room : RoomInvariant config)
    (inv : WaitInvariant config) (guarded : GuardedSchedule config label)
    (stepped : program.machine.step? config label = some next) : WaitInvariant next := by
  obtain ⟨before, after, step, transition⟩ := step_transition stepped
  intro began ticket closesSeen found blocked
  rcases step.thread_cases found with ⟨here, rfl⟩ | ⟨different, earlier⟩
  · obtain ⟨_, unreleased, _, ⟨rfl, _⟩ | ⟨earlierTicket, rfl⟩⟩ := transition.blocked_cases
    · have releasing : config.Somewhere Control.releases := by
        rcases room.unreleased unreleased with releasing | lost
        · exact releasing
        · exact guarded.2 _ step.running rfl unreleased lost
      exact RoomInvariant.kept_or_released step transition releasing blocked
    · have running := step.running
      rw [← here] at running
      exact RoomInvariant.kept_or_released step transition (inv _ _ _ running unreleased) blocked
  · rcases transition.unreleased_cases blocked with unreleased | releases | rfl
    · exact RoomInvariant.kept_or_released step transition (inv _ _ _ earlier unreleased) blocked
    · exact step.somewhere_arrived releases
    · cases room.timers _ _ different.symm step.running

theorem waitInvariant_of_run {threads : Nat} {config : Config}
    (run : program.machine.Run GuardedSchedule (initial threads) config) : WaitInvariant config :=
  run.invariant_with (roomInvariant_of_run fun _ _ guarded => guarded.1)
    (fun _ _ _ found => nomatch initial_thread found)
    fun room inv guarded stepped => waitInvariant_step room inv guarded stepped

/-- The choices by which a releasing call, whose attempt fails if it is still open,
comes to its `notify_all`. -/
def Control.finish : Control → List Choice
  | .pollSchedule _ => [.proceed, .proceed, .proceed, .connected false, .proceed, .proceed]
  | .pollBeginSession _ => [.proceed, .proceed, .connected false, .proceed, .proceed]
  | .pollTryConnect _ => [.proceed, .connected false, .proceed, .proceed]
  | .pollConnecting => [.connected false, .proceed, .proceed]
  | .pollAdopt => [.proceed, .proceed, .proceed]
  | .pollCloseFailed | .enable | .close | .stopClose => [.proceed, .proceed]
  | _ => [.proceed]

theorem Control.finish_no_call (control : Control) {choice : Choice}
    (member : choice ∈ control.finish) (entry : Entry) : choice ≠ .call entry := by
  cases control <;> simp_all [Control.finish] <;> grind

theorem solo_releases (shared : Shared) {control : Control} (releases : control.releases = true) :
    ∃ shared' after, program.solo? shared control control.finish = some (shared', after) ∧
      shared'.manager.released = true ∧
      shared.manager.notifications < shared'.manager.notifications := by
  cases control with
  | pollAdopt =>
      obtain ⟨_, exchange⟩ | ⟨_, exchange⟩ := shared.manager.compareExchange_cases .connecting .connected
      · simp only [Control.finish, Program.solo?, program, advance, exchange]
        exact ⟨_, _, rfl, rfl, Nat.lt_succ_self _⟩
      · simp only [Control.finish, Program.solo?, program, advance, exchange]
        exact ⟨_, _, rfl, rfl, Nat.lt_succ_self _⟩
  | pollSchedule | pollBeginSession | pollTryConnect | pollConnecting | pollCloseFailed | enable
  | close | stopClose => exact ⟨_, _, rfl, rfl, Nat.lt_succ_self _⟩
  | _ => cases releases

theorem solo_notifies (shared : Shared) {control : Control} (notifying : control.notifying = true) :
    ∃ shared' after, program.solo? shared control control.finish = some (shared', after) ∧
      shared'.manager.released = shared.manager.released ∧
      shared.manager.notifications < shared'.manager.notifications := by
  cases control with
  | pollNotifyFailed | notify | stopNotify => exact ⟨_, _, rfl, rfl, Nat.lt_succ_self _⟩
  | _ => cases notifying

/-- A call in progress that releases and notifies lets the event thread return. -/
theorem not_wedged_of_finish {config : Config} (wakeups : WakeupInvariant config)
    {thread : Nat} {control : Control} (found : config.threads[thread]? = some control)
    (elsewhere : thread ≠ 0)
    (finishes : ∃ shared' after,
      program.solo? config.shared control control.finish = some (shared', after) ∧
        shared'.manager.released = true ∧
        config.shared.manager.notifications < shared'.manager.notifications) :
    ¬ Wedged config := by
  intro wedged
  obtain ⟨shared', after, ran, released, notified⟩ := finishes
  obtain ⟨began, ticket, closesSeen, blocked⟩ := wedged.blocked
  have allowed : ∀ choice ∈ control.finish, ∀ state, TimerOnly state (thread, choice) := by
    intro choice member state
    refine ⟨elsewhere, ?_⟩
    cases choice with
    | call entry => exact absurd rfl (control.finish_no_call member entry)
    | _ => trivial
  obtain ⟨final, run, same, others⟩ := Program.run_of_solo control.finish found allowed ran
  refine wedged.stuck final run ⟨began, ticket, closesSeen, ?_, ?_, ?_⟩
  · rw [others 0 elsewhere.symm]
    exact blocked
  · rw [same]
    exact released
  · rw [same]
    exact Nat.lt_of_le_of_lt (wakeups.seen _ _ _ _ blocked) notified

/-- A blocked event thread is not at a control point of any other kind. -/
theorem elsewhere_of_kind {config : Config} {kind : Control → Bool} {began ticket closesSeen : Nat}
    (blocked : config.threads[0]? = some (.waitBlocked began ticket closesSeen))
    (excluded : kind (.waitBlocked began ticket closesSeen) = false)
    {thread : Nat} {control : Control} (found : config.threads[thread]? = some control)
    (holds : kind control = true) : thread ≠ 0 := by
  rintro rfl
  rw [blocked] at found
  cases found
  rw [excluded] at holds
  cases holds

theorem not_wedged_of_run {threads : Nat} {config : Config}
    (run : program.machine.Run GuardedSchedule (initial threads) config) : ¬ Wedged config := by
  intro wedged
  have wakeups := wakeupInvariant_of_run run
  obtain ⟨began, ticket, closesSeen, blocked⟩ := wedged.blocked
  cases released : config.shared.manager.released with
  | false =>
      have releasing := waitInvariant_of_run run _ _ _ blocked released
      obtain ⟨thread, control, found, releases⟩ := releasing.thread
      exact not_wedged_of_finish wakeups found (elsewhere_of_kind blocked rfl found releases)
        (solo_releases config.shared releases) wedged
  | true =>
      rcases wakeups.woken _ _ _ _ blocked released with notified | notifying
      · exact wedged.stuck config .refl ⟨began, ticket, closesSeen, blocked, released, notified⟩
      · obtain ⟨thread, control, found, notifies⟩ := notifying.thread
        have finishes := solo_notifies config.shared notifies
        rw [released] at finishes
        exact not_wedged_of_finish wakeups found (elsewhere_of_kind blocked rfl found notifies)
          finishes wedged

/-- The event thread waits in `Reconnecting` and no call will release the barrier. -/
structure Stuck (config : Config) : Prop where
  timers : ∀ (thread : Nat) (control : Control), thread ≠ 0 →
    config.threads[thread]? = some control → control.polling = true
  lost : config.shared.manager.state = .reconnecting
  unreleased : config.shared.manager.released = false
  calm : config.Nowhere Control.releases

theorem stuck_step {config next : Config} {label : Nat × Choice} (stuck : Stuck config)
    (timer : TimerOnly config label) (stepped : program.machine.step? config label = some next) :
    Stuck next := by
  obtain ⟨before, after, step, transition⟩ := step_transition stepped
  have polling := stuck.timers _ _ timer.1 step.running
  have polls := timer.2.polls timer.1
  obtain ⟨unreleased, calm⟩ := transition.stays_stuck polling polls (stuck.calm.thread step.running)
    stuck.lost stuck.unreleased
  refine ⟨?_, transition.keeps_reconnecting polling stuck.lost, unreleased, step.nowhere stuck.calm calm⟩
  intro thread control other found
  rcases step.thread_cases found with ⟨_, rfl⟩ | ⟨_, earlier⟩
  · exact transition.polling polling polls
  · exact stuck.timers thread control other earlier

theorem wedged_of_unguarded {threads : Nat} {config next : Config} {label : Nat × Choice}
    (run : program.machine.Run RoomSchedule (initial threads) config)
    (unguarded : ¬ WaitGuarded config label)
    (stepped : program.machine.step? config label = some next) : Wedged next := by
  have room := roomInvariant_of_run (fun _ _ scheduled => scheduled) run
  obtain ⟨before, after, step, transition⟩ := step_transition stepped
  simp only [WaitGuarded, step.running, Option.mem_some_iff, forall_eq', Classical.not_imp]
    at unguarded
  obtain ⟨entering, unreleased, lost, calm⟩ := unguarded
  have eventThread : label.1 = 0 := by
    by_contra timer
    have polling := room.timers _ _ timer step.running
    cases before <;> simp_all [Control.entering, Control.polling]
  obtain ⟨thread, choice⟩ := label
  obtain ⟨shared', threads'⟩ := next
  subst eventThread
  change Transition config.shared before choice shared' after at transition
  cases transition with
  | waitSkipped began released =>
      rw [unreleased] at released
      cases released
  | waitEntered began =>
      have quiet : ∀ control ∈ config.threads, control.releases = false := by
        intro control member
        by_contra releases
        exact calm ⟨control, member, by simpa using releases⟩
      have start : Stuck ⟨config.shared, threads'⟩ := by
        refine ⟨?_, lost, unreleased, step.nowhere quiet rfl⟩
        intro thread control timer found
        rw [step.others thread timer] at found
        exact room.timers thread control timer found
      refine ⟨⟨_, _, _, step.advancedTo⟩, ?_⟩
      intro final timerRun ran
      obtain ⟨_, _, _, _, released, _⟩ := ran
      have stuck : Stuck final :=
        timerRun.invariant start fun stuck timer stepped => stuck_step stuck timer stepped
      rw [stuck.unreleased] at released
      cases released
  | _ => cases entering

/-- The readiness barrier never wedges the event thread in a run whose waits are all
guarded, and the first wait that is not guarded wedges it. -/
theorem event_thread_not_wedged (timers : Nat) :
    (∀ config, program.machine.Run GuardedSchedule (initial (timers + 1)) config → ¬ Wedged config) ∧
    ∀ config label next, program.machine.Run RoomSchedule (initial (timers + 1)) config →
      RoomSchedule config label → ¬ WaitGuarded config label →
      program.machine.step? config label = some next → Wedged next :=
  ⟨fun _ run => not_wedged_of_run run,
    fun _ _ _ run _ unguarded stepped => wedged_of_unguarded run unguarded stepped⟩

/-- The connection joins, is lost, and a data track is announced before it is back. -/
def trackDuringReconnect : List (Nat × Choice) :=
  joinSchedule 1 ++ [.call .onReconnecting, .proceed, .proceed, .call .waitForOperations].map (0, ·)

theorem event_thread_waits_for_attempt :
    ∃ config, program.machine.exec? (initial 2)
        ((joinSchedule 1).take 8 ++ [(0, .call .waitForOperations), (0, .proceed)]) = some config ∧
      config.threads[0]? = some (.waitBlocked 1 0 0) ∧ ¬ Wedged config :=
  ⟨_, rfl, rfl, (event_thread_not_wedged 1).1 _ (Machine.Run.of_exec
    ((joinSchedule 1).take 8 ++ [(0, .call .waitForOperations), (0, .proceed)]) rfl)⟩

theorem event_thread_wedged :
    ¬ ∀ (timers : Nat) (config : Config),
      program.machine.Run RoomSchedule (initial (timers + 1)) config → ¬ Wedged config := by
  intro never
  obtain ⟨config, run, next, stepped, unguarded⟩ :
      ∃ config, program.machine.Run RoomSchedule (initial 2) config ∧
        ∃ next, program.machine.step? config (0, .proceed) = some next ∧
          ¬ WaitGuarded config (0, .proceed) :=
    ⟨_, .of_exec trackDuringReconnect rfl, _, rfl, by decide⟩
  have scheduled : RoomSchedule config (0, .proceed) := trivial
  exact never 1 next (.step run scheduled stepped) (wedged_of_unguarded run unguarded stepped)

end RosPortal.Connection
