import RosPortal.Portal.RpcHandlers

/-! The handlers of a started session. A registration that finds operations disabled is
not tried again, and a new session that finds the components of the one before started
has none of the handlers; where neither happens every started session has them all. -/

set_option autoImplicit false

namespace RosPortal.Portal.Rpc

open Interleaving Connection

namespace Session

theorem adoptCliManager_eq {session : Session} (none : session.cliRegistered = [])
    (registered : List String) :
    session.adoptCliManager registered = { session with
      node := { session.node with cliManager := true }
      cliRegistered := registered } := by
  simp [adoptCliManager, releaseCliManager, rpcUnregisterMethods, none]

theorem adoptLatchedTopicForwarder_eq {session : Session} (none : session.latchedRegistered = false)
    (registered : Bool) :
    session.adoptLatchedTopicForwarder registered = { session with
      node := { session.node with latchedTopicForwarder := some {} }
      latchedRegistered := registered } := by
  simp [adoptLatchedTopicForwarder, releaseLatchedTopicForwarder, none]

@[simp] theorem stopRoomComponents_cliRegistered (session : Session) :
    session.stopRoomComponents.cliRegistered = [] := by
  unfold stopRoomComponents releaseLatchedTopicForwarder
  split <;> rfl

@[simp] theorem stopRoomComponents_latchedRegistered (session : Session) :
    session.stopRoomComponents.latchedRegistered = false := by
  unfold stopRoomComponents releaseLatchedTopicForwarder
  split
  · rfl
  · exact Bool.not_eq_true _ ▸ ‹_›

@[simp] theorem stopRoomComponents_locked (session : Session) :
    session.stopRoomComponents.locked = session.locked := by
  unfold stopRoomComponents releaseLatchedTopicForwarder
  split <;> rfl

theorem rpcRegisterMethod_enabled {session : Session} (method : String)
    (enabled : session.node.roomOperationsEnabled = true) :
    session.rpcRegisterMethod method =
      ({ session with participant := session.participant.insert method }, true) := by
  simp [rpcRegisterMethod, enabled]

end Session

/-- The thread holds the lock and starts the room components. -/
def Control.starting : Control → Bool
  | .prepare | .forwarder | .cliManager | .registering _ _ | .latched | .registeringLatched
  | .videoSources => true
  | _ => false

/-- The steps of `advance`, as far as they matter to the handlers. -/
inductive Transition (options : Options) (session : Session) : Control → Choice → Session → Control → Prop where
  | elsewhere {before after : Control} (choice : Choice) (node : Node) :
      before.starting = false → after.starting = false →
      node.roomComponentsStarted = session.node.roomComponentsStarted →
      Transition options session before choice { session with node } after
  | stopped {before after : Control} (choice : Choice) : session.locked = false →
      after.starting = false → Transition options session before choice session.stopRoomComponents after
  | polled (now : Int) (connected : Bool) :
      Transition options session .tickPoll (.polled now connected) (session.pollManager now connected)
        .tickJoined
  | begun : session.locked = false → session.node.roomComponentsStarted = false →
      Transition options session .tickStart .proceed { session with locked := true } .prepare
  | prepared (success : Bool) (node : Node) :
      node.roomComponentsStarted = session.node.roomComponentsStarted →
      Transition options session .prepare (.outcome success) { session with node } .forwarder
  | ensured (success : Bool) (node : Node) :
      node.roomComponentsStarted = session.node.roomComponentsStarted →
      Transition options session .forwarder (.outcome success) { session with node } .cliManager
  | abandoned {before : Control} (choice : Choice) : before.starting = true →
      Transition options session before choice session.abandon .idle
  | constructing : Transition options session .cliManager (.outcome true) session (.registering [] cliRpcMethods)
  | registration (registered remaining next : List String) (method : String) :
      Transition options session (.registering registered (method :: remaining)) .proceed
        (session.rpcRegisterMethod method).1 (.registering next remaining)
  | adopted (registered : List String) :
      Transition options session (.registering registered []) .proceed (session.adoptCliManager registered)
        .latched
  | latchedSkipped (success : Bool) : options.inboundTopics.isEmpty = true →
      Transition options session .latched (.outcome success) session .videoSources
  | latchedAdopted : options.inboundTopics.isEmpty = true →
      Transition options session .latched (.outcome true) (session.adoptLatchedTopicForwarder false)
        .videoSources
  | latchedConstructing :
      Transition options session .latched (.outcome true) session .registeringLatched
  | latchedRegistration :
      Transition options session .registeringLatched .proceed
        ((session.rpcRegisterMethod kLatchedStateRpcMethod).1.adoptLatchedTopicForwarder
          (session.rpcRegisterMethod kLatchedStateRpcMethod).2) .videoSources
  | finished (success : Bool) :
      Transition options session .videoSources (.outcome success) (session.finish success) .idle

private theorem begin_transition (options : Options) (session : Session) (call : Call) :
    Transition options session .idle (.call call) (begin session call).1 (begin session call).2 := by
  cases call with
  | pollConnection => exact .elsewhere _ session.node rfl rfl rfl
  | reconcileGraphTopics =>
      cases ended : session.node.roomSessionEnded with
      | true =>
          simp only [begin, ended, ↓reduceIte]
          exact .elsewhere _ _ rfl rfl rfl
      | false =>
          simp only [begin, ended, Bool.false_eq_true, ↓reduceIte]
          exact .elsewhere _ session.node rfl rfl rfl
  | onRoomEos => exact .elsewhere _ _ rfl rfl rfl
  | onConnectionStateChanged state => exact .elsewhere _ _ rfl rfl rfl

theorem advance_transition {options : Options} {session session' : Session} {before after : Control}
    {choice : Choice} (advanced : advance options session before choice = some (session', after)) :
    Transition options session before choice session' after := by
  -- Straight-line steps reduce to their constructor; the named cases below branch.
  cases before <;> cases choice <;> try cases advanced
  case idle.call call =>
    have began : begin session call = (session', after) := Option.some.inj advanced
    have transition := begin_transition options session call
    rw [began] at transition
    exact transition
  case tickEnded.proceed =>
    simp only [advance] at advanced
    split at advanced <;> cases advanced
    · exact .elsewhere _ _ rfl rfl rfl
    · exact .elsewhere _ session.node rfl rfl rfl
  case tickStop.proceed =>
    simp only [advance] at advanced
    split at advanced <;> cases advanced
    exact .stopped _ (Bool.not_eq_true _ ▸ ‹_›) rfl
  case tickConnected.proceed.refl =>
    apply Transition.elsewhere _ session.node rfl ?_ rfl
    split <;> rfl
  case tickEnsure.outcome success =>
    simp only [advance] at advanced
    split at advanced
    · cases advanced
    · split at advanced <;> cases advanced
      · rename_i ensures
        obtain rfl := Node.ensureTopicForwarder_eq ensures
        exact .elsewhere _ _ rfl rfl rfl
      · exact .elsewhere _ session.node rfl rfl rfl
  case tickPoll.polled.refl now connected => exact .polled now connected
  case tickJoined.proceed.refl =>
    apply Transition.elsewhere _ session.node rfl ?_ rfl
    split <;> rfl
  case tickStart.proceed =>
    simp only [advance] at advanced
    split at advanced
    · cases advanced
    · split at advanced <;> cases advanced
      · exact .elsewhere _ session.node rfl rfl rfl
      · exact .begun (Bool.not_eq_true _ ▸ ‹_›) (Bool.not_eq_true _ ▸ ‹_›)
  case graphStop.proceed =>
    simp only [advance] at advanced
    split at advanced <;> cases advanced
    exact .stopped _ (Bool.not_eq_true _ ▸ ‹_›) rfl
  case eosManager.proceed.refl => exact .elsewhere _ _ rfl rfl rfl
  case prepare.outcome success =>
    simp only [advance] at advanced
    split at advanced <;> cases advanced
    · rename_i prepares
      obtain rfl := Node.prepareRoomSession_eq prepares
      exact .prepared success _ rfl
    · exact .abandoned _ rfl
  case forwarder.outcome success =>
    simp only [advance] at advanced
    split at advanced <;> cases advanced
    · rename_i ensures
      obtain rfl := Node.ensureTopicForwarder_eq ensures
      exact .ensured success _ rfl
    · exact .abandoned _ rfl
  case cliManager.outcome success =>
    cases success <;> cases advanced
    · exact .abandoned _ rfl
    · exact .constructing
  case registering.proceed registered remaining =>
    cases remaining with
    | nil =>
        cases advanced
        exact .adopted registered
    | cons method remaining =>
        cases advanced
        exact .registration registered remaining _ method
  case registering.call registered remaining call => cases remaining <;> cases advanced
  case registering.polled registered remaining now connected => cases remaining <;> cases advanced
  case registering.outcome registered remaining success => cases remaining <;> cases advanced
  case latched.outcome success =>
    simp only [advance] at advanced
    split at advanced
    · rename_i unconfigured
      cases advanced
      exact .latchedSkipped success (Bool.and_eq_true_iff.mp unconfigured).2
    · cases success with
      | false =>
          cases advanced
          exact .abandoned _ rfl
      | true =>
          simp only [↓reduceIte] at advanced
          split at advanced <;> cases advanced
          · exact .latchedAdopted ‹_›
          · exact .latchedConstructing
  case registeringLatched.proceed.refl => exact .latchedRegistration
  case videoSources.outcome.refl success => exact .finished success

/-- How far the start has come with the handlers. -/
def Control.Progress (options : Options) (session : Session) : Control → Prop
  | .prepare | .forwarder | .cliManager =>
      session.cliRegistered = [] ∧ session.latchedRegistered = false
  | .registering _ remaining =>
      session.cliRegistered = [] ∧ session.latchedRegistered = false ∧
        ∀ method ∈ cliRpcMethods, method ∈ remaining ∨ method ∈ session.participant
  | .latched | .registeringLatched =>
      session.latchedRegistered = false ∧ ∀ method ∈ cliRpcMethods, method ∈ session.participant
  | .videoSources => AllRegistered options session
  | _ => True

/-- A started session has its handlers, and so has each step of a start as far as it has come. -/
structure Registering (options : Options) (config : Config) : Prop where
  progress : ∀ (thread : Nat) (control : Control), config.threads[thread]? = some control →
    control.Progress options config.shared
  started : config.shared.node.roomComponentsStarted = true → AllRegistered options config.shared
  stopped : config.shared.node.roomComponentsStarted = false → config.shared.locked = false →
    config.shared.cliRegistered = [] ∧ config.shared.latchedRegistered = false
  locked : ∀ (thread : Nat) (control : Control), config.threads[thread]? = some control →
    control.starting = true →
      config.shared.locked = true ∧ config.shared.node.roomComponentsStarted = false
  single : ∀ (first second : Nat) (one other : Control), config.threads[first]? = some one →
    config.threads[second]? = some other → one.starting = true → other.starting = true → first = second

theorem Control.Progress.of_idle {options : Options} {session : Session} {control : Control}
    (idle : control.starting = false) : control.Progress options session := by
  cases control with
  | prepare | forwarder | cliManager | registering | latched | registeringLatched | videoSources =>
      cases idle
  | _ => trivial

/-- The node has no part in the progress of a start. -/
theorem Control.Progress.with_node {options : Options} {session : Session} {control : Control}
    (progress : control.Progress options session) (node : Node) :
    control.Progress options { session with node } := by
  cases control <;> exact progress

theorem Control.Progress.registered {options : Options} {session : Session} {method : String}
    {registered next remaining : List String}
    (progress : (Control.registering registered (method :: remaining)).Progress options session)
    (enabled : session.node.roomOperationsEnabled = true) :
    (Control.registering next remaining).Progress options (session.rpcRegisterMethod method).1 := by
  rw [Session.rpcRegisterMethod_enabled method enabled]
  obtain ⟨noneCli, noneLatched, covered⟩ := progress
  refine ⟨noneCli, noneLatched, ?_⟩
  intro wanted listed
  rcases covered wanted listed with waiting | present
  · rcases List.mem_cons.mp waiting with rfl | later
    · exact .inr List.mem_insert_self
    · exact .inl later
  · exact .inr (List.mem_insert_of_mem present)

theorem allRegistered_of_cli {options : Options} {session : Session}
    (none : options.inboundTopics.isEmpty = true)
    (cli : ∀ method ∈ cliRpcMethods, method ∈ session.participant) : AllRegistered options session := by
  intro method configured
  simp only [configuredMethods, none, ↓reduceIte] at configured
  exact cli method configured

theorem allRegistered_of_latched {options : Options} {session : Session}
    (cli : ∀ method ∈ cliRpcMethods, method ∈ session.participant)
    (latched : kLatchedStateRpcMethod ∈ session.participant) : AllRegistered options session := by
  intro method configured
  unfold configuredMethods at configured
  split at configured
  · exact cli method configured
  · rcases List.mem_append.mp configured with command | state
    · exact cli method command
    · rw [List.mem_singleton.mp state]
      exact latched

theorem registering_initial (options : Options) (graph : TopicNamesAndTypes) (threads : Nat) :
    Registering options (initial graph threads) := by
  have idle {thread : Nat} {control : Control}
      (found : (initial graph threads).threads[thread]? = some control) : control = .idle :=
    List.eq_of_mem_replicate (List.mem_of_getElem? found)
  constructor
  · intro thread control found
    rw [idle found]
    trivial
  · intro started
    cases started
  · intro _ _
    exact ⟨rfl, rfl⟩
  · intro thread control found starting
    rw [idle found] at starting
    cases starting
  · intro first second one other foundOne _ starting
    rw [idle foundOne] at starting
    cases starting

section Step

variable {options : Options} {config next : Config} {thread : Nat} {choice : Choice}
  {before after : Control}

/-- A thread outside the start moves without touching the handlers of a start. -/
theorem Registering.outside (inv : Registering options config)
    (step : (program options).StepOf config thread choice next before after)
    (idle : after.starting = false)
    (kept : ∀ (other : Nat) (control : Control), other ≠ thread → config.threads[other]? = some control →
      control.starting = true → control.Progress options next.shared ∧ next.shared.locked = true ∧
        next.shared.node.roomComponentsStarted = false)
    (started : next.shared.node.roomComponentsStarted = true → AllRegistered options next.shared)
    (stopped : next.shared.node.roomComponentsStarted = false → next.shared.locked = false →
      next.shared.cliRegistered = [] ∧ next.shared.latchedRegistered = false) :
    Registering options next := by
  constructor
  · intro other control found
    rcases step.thread_cases found with ⟨_, rfl⟩ | ⟨elsewhere, earlier⟩
    · exact .of_idle idle
    · cases starting : control.starting with
      | false => exact .of_idle starting
      | true => exact (kept other control elsewhere earlier starting).1
  · exact started
  · exact stopped
  · intro other control found starting
    rcases step.thread_cases found with ⟨_, rfl⟩ | ⟨elsewhere, earlier⟩
    · rw [idle] at starting
      cases starting
    · exact (kept other control elsewhere earlier starting).2
  · intro first second one other foundOne foundOther startingOne startingOther
    rcases step.thread_cases foundOne with ⟨_, rfl⟩ | ⟨_, earlierOne⟩
    · rw [idle] at startingOne
      cases startingOne
    · rcases step.thread_cases foundOther with ⟨_, rfl⟩ | ⟨_, earlierOther⟩
      · rw [idle] at startingOther
        cases startingOther
      · exact inv.single first second one other earlierOne earlierOther startingOne startingOther

theorem Registering.moved (inv : Registering options config)
    (step : (program options).StepOf config thread choice next before after) (node : Node)
    (updated : next.shared = { config.shared with node }) (idle : after.starting = false)
    (same : node.roomComponentsStarted = config.shared.node.roomComponentsStarted) :
    Registering options next := by
  apply inv.outside step idle
  · intro other control _ found starting
    obtain ⟨locked, unstarted⟩ := inv.locked other control found starting
    rw [updated]
    exact ⟨(inv.progress other control found).with_node node, locked, same.trans unstarted⟩
  · rw [updated]
    intro started
    exact inv.started (same.symm.trans started)
  · rw [updated]
    intro unstarted free
    exact inv.stopped (same.symm.trans unstarted) free

/-- The thread that starts the components goes on with the start. -/
theorem registering_onward
    (step : (program options).StepOf config thread choice next before after)
    (alone : ∀ (other : Nat) (control : Control), other ≠ thread → config.threads[other]? = some control →
      control.starting = false)
    (progress : after.Progress options next.shared)
    (locked : next.shared.locked = true) (unstarted : next.shared.node.roomComponentsStarted = false) :
    Registering options next := by
  have others {other : Nat} {control : Control} (found : next.threads[other]? = some control)
      (starting : control.starting = true) : other = thread := by
    rcases step.thread_cases found with ⟨same, _⟩ | ⟨elsewhere, earlier⟩
    · exact same
    · rw [alone other control elsewhere earlier] at starting
      cases starting
  constructor
  · intro other control found
    rcases step.thread_cases found with ⟨_, rfl⟩ | ⟨elsewhere, earlier⟩
    · exact progress
    · exact .of_idle (alone other control elsewhere earlier)
  · intro started
    rw [unstarted] at started
    cases started
  · intro _ free
    rw [locked] at free
    cases free
  · intro _ _ _ _
    exact ⟨locked, unstarted⟩
  · intro first second one other foundOne foundOther startingOne startingOther
    exact (others foundOne startingOne).trans (others foundOther startingOther).symm

theorem Registering.alone_of_free (inv : Registering options config)
    (free : config.shared.locked = false) {other : Nat} {control : Control}
    (found : config.threads[other]? = some control) : control.starting = false := by
  cases starting : control.starting with
  | false => rfl
  | true =>
      have locked := (inv.locked other control found starting).1
      rw [free] at locked
      cases locked

theorem Registering.alone_of_starting (inv : Registering options config)
    (running : config.threads[thread]? = some before) (starting : before.starting = true)
    {other : Nat} {control : Control} (elsewhere : other ≠ thread)
    (found : config.threads[other]? = some control) : control.starting = false := by
  cases also : control.starting with
  | false => rfl
  | true => exact absurd (inv.single other thread control before found running also starting) elsewhere

end Step

theorem registering_step {options : Options} {config next : Config} {label : Nat × Choice}
    (inv : Registering options config) (guarded : Guarded config label)
    (stepped : (program options).machine.step? config label = some next) : Registering options next := by
  obtain ⟨before, after, step⟩ := Program.stepOf stepped
  have transition := advance_transition step.advanced
  have allowed := guarded before step.running
  have progress := inv.progress _ _ step.running
  have lock (starting : before.starting = true) := inv.locked _ _ step.running starting
  have alone (starting : before.starting = true) (other : Nat) (control : Control) (elsewhere : other ≠ label.1)
      (found : config.threads[other]? = some control) : control.starting = false :=
    inv.alone_of_starting step.running starting elsewhere found
  obtain ⟨thread, choice⟩ := label
  obtain ⟨session, threads⟩ := next
  change Transition options config.shared before choice session after at transition
  cases transition with
  | elsewhere _ node idle idleAfter same =>
      exact inv.moved step node rfl idleAfter same
  | stopped _ free idleAfter =>
      apply inv.outside step idleAfter
      · intro other control _ found starting
        rw [inv.alone_of_free free found] at starting
        cases starting
      · intro started
        cases started
      · intro _ _
        exact ⟨Session.stopRoomComponents_cliRegistered _, Session.stopRoomComponents_latchedRegistered _⟩
  | polled now connected =>
      cases connects : config.shared.connects now connected with
      | false =>
          have updated : config.shared.pollManager now connected =
              { config.shared with node := config.shared.node.pollManager now connected } := by
            simp [Session.pollManager, connects]
          exact inv.moved step _ updated rfl rfl
      | true =>
          -- Nothing of the session before is left.
          have settled : config.shared.node.roomComponentsStarted = false ∧ config.shared.locked = false := by
            simpa [Control.guarded, connects] using allowed
          apply inv.outside step rfl
          · intro other control _ found starting
            rw [inv.alone_of_free settled.2 found] at starting
            cases starting
          · intro started
            exact absurd (settled.1.symm.trans started) Bool.false_ne_true
          · intro _ _
            exact inv.stopped settled.1 settled.2
  | begun free unstarted =>
      obtain ⟨noneCli, noneLatched⟩ := inv.stopped unstarted free
      apply registering_onward step (fun _ _ _ found => inv.alone_of_free free found) ?_ rfl unstarted
      exact ⟨noneCli, noneLatched⟩
  | prepared success node same | ensured success node same =>
      obtain ⟨locked, unstarted⟩ := lock rfl
      exact registering_onward step (alone rfl) progress locked (same.trans unstarted)
  | abandoned _ starting =>
      apply inv.outside step rfl
      · intro other control elsewhere found also
        rw [alone starting other control elsewhere found] at also
        cases also
      · intro started
        cases started
      · intro _ _
        exact ⟨Session.stopRoomComponents_cliRegistered _, Session.stopRoomComponents_latchedRegistered _⟩
  | constructing =>
      obtain ⟨locked, unstarted⟩ := lock rfl
      apply registering_onward step (alone rfl) ?_ locked unstarted
      exact ⟨progress.1, progress.2, fun method listed => .inl listed⟩
  | registration registered remaining following method =>
      obtain ⟨locked, unstarted⟩ := lock rfl
      apply registering_onward step (alone rfl) (progress.registered allowed)
      · rw [Session.rpcRegisterMethod_enabled method allowed]
        exact locked
      · rw [Session.rpcRegisterMethod_enabled method allowed]
        exact unstarted
  | adopted registered =>
      obtain ⟨locked, unstarted⟩ := lock rfl
      obtain ⟨noneCli, noneLatched, covered⟩ := progress
      have adopts := Session.adoptCliManager_eq noneCli registered
      apply registering_onward step (alone rfl)
      · rw [adopts]
        exact ⟨noneLatched, fun method listed => (covered method listed).resolve_left List.not_mem_nil⟩
      · rw [adopts]
        exact locked
      · rw [adopts]
        exact unstarted
  | latchedSkipped success none =>
      obtain ⟨locked, unstarted⟩ := lock rfl
      exact registering_onward step (alone rfl) (allRegistered_of_cli none progress.2) locked unstarted
  | latchedAdopted none =>
      obtain ⟨locked, unstarted⟩ := lock rfl
      have adopts := Session.adoptLatchedTopicForwarder_eq progress.1 false
      apply registering_onward step (alone rfl)
      · rw [adopts]
        exact allRegistered_of_cli none progress.2
      · rw [adopts]
        exact locked
      · rw [adopts]
        exact unstarted
  | latchedConstructing =>
      obtain ⟨locked, unstarted⟩ := lock rfl
      exact registering_onward step (alone rfl) progress locked unstarted
  | latchedRegistration =>
      obtain ⟨locked, unstarted⟩ := lock rfl
      let heard : Session :=
        { config.shared with participant := config.shared.participant.insert kLatchedStateRpcMethod }
      have adopts : (config.shared.rpcRegisterMethod kLatchedStateRpcMethod).1.adoptLatchedTopicForwarder
          (config.shared.rpcRegisterMethod kLatchedStateRpcMethod).2 = { heard with
            node := { config.shared.node with latchedTopicForwarder := some {} }
            latchedRegistered := true } := by
        rw [Session.rpcRegisterMethod_enabled _ allowed]
        exact @Session.adoptLatchedTopicForwarder_eq heard progress.1 true
      apply registering_onward step (alone rfl)
      · rw [adopts]
        exact allRegistered_of_latched (fun method listed => List.mem_insert_of_mem (progress.2 method listed))
          List.mem_insert_self
      · rw [adopts]
        exact locked
      · rw [adopts]
        exact unstarted
  | finished success =>
      apply inv.outside step rfl
      · intro other control elsewhere found also
        rw [alone rfl other control elsewhere found] at also
        cases also
      · intro _
        exact progress
      · intro unstarted
        cases unstarted

/-- Every configured handler of a room that is ready is registered, in every run whose
registrations find operations enabled and whose sessions begin with nothing started. -/
theorem handlers_registered (options : Options) (graph : TopicNamesAndTypes) (threads : Nat)
    (config : Config)
    (run : (program options).machine.Run Guarded (initial graph threads) config)
    (ready : Ready config.shared.node) (_ : NoCall config) : AllRegistered options config.shared :=
  (run.invariant (registering_initial options graph threads) registering_step).started ready.started

def latchedOptions : Options := { inboundTopics := ["/map"] }

def noTopics : TopicNamesAndTypes := ⟨[], .nil⟩

/-- A tick that brings up a session, up to its first registration. -/
def tickToRegistrations (thread : Nat) : List (Nat × Choice) :=
  [(thread, .call .pollConnection), (thread, .proceed), (thread, .proceed), (thread, .outcome true),
    (thread, .polled 0 true), (thread, .proceed), (thread, .proceed), (thread, .outcome true),
    (thread, .outcome true), (thread, .outcome true)]

/-- The rest of the tick after so many registrations of the CLI manager. -/
def tickFromRegistration (thread registered : Nat) : List (Nat × Choice) :=
  List.replicate (cliRpcMethods.length - registered) (thread, .proceed) ++
    [(thread, .proceed), (thread, .outcome true), (thread, .proceed), (thread, .outcome true)]

theorem handlers_registered_after_reconnect :
    ∃ config : Config,
      (program latchedOptions).machine.Run Guarded (initial noTopics 2) config ∧
        Ready config.shared.node ∧ NoCall config ∧ AllRegistered latchedOptions config.shared := by
  obtain ⟨config, run, ready, noCall⟩ := Machine.Run.exists_of_exec (program latchedOptions).machine
    Guarded (initial noTopics 2)
    (tickToRegistrations 0 ++ tickFromRegistration 0 0 ++
      [(1, .call (.onConnectionStateChanged .reconnecting)), (1, .call (.onConnectionStateChanged .connected))])
    (fun config => Ready config.shared.node ∧ NoCall config) (by decide +kernel)
  exact ⟨config, run, ready, noCall,
    handlers_registered latchedOptions noTopics 2 config run ready noCall⟩

/-- A reconnect that begins after two registrations and ends after the tick. -/
def reconnectDuringStart : List (Nat × Choice) :=
  tickToRegistrations 0 ++ [(0, .proceed), (0, .proceed),
    (1, .call (.onConnectionStateChanged .reconnecting))] ++
    tickFromRegistration 0 2 ++ [(1, .call (.onConnectionStateChanged .connected))]

theorem handlers_missing_after_reconnect :
    ∃ config : Config,
      (program latchedOptions).machine.Reaches (initial noTopics 2) config ∧
        Ready config.shared.node ∧ NoCall config ∧ ¬ AllRegistered latchedOptions config.shared :=
  Machine.Reaches.exists_of_exec (program latchedOptions).machine (initial noTopics 2)
    reconnectDuringStart (fun config => Ready config.shared.node ∧ NoCall config ∧
      ¬ AllRegistered latchedOptions config.shared) (by decide +kernel)

end RosPortal.Portal.Rpc
