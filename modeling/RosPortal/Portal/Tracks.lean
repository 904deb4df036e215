import RosPortal.Portal.Transition

/-! Inbound data tracks inside a session. The forwarder that accepted a track may be
destroyed by a teardown that runs late or by a failed start; the SDK announces the
track only once. -/

set_option autoImplicit false

namespace RosPortal.Portal

open Interleaving Connection

def Node.Holds (node : Node) (sid : String) : Prop :=
  ∃ forwarder, node.topicForwarder = some forwarder ∧ sid ∈ forwarder.inboundDataTrackStates

/-- A call is in progress; the worker that waits or reaps is not a call. -/
def Control.busy : Control → Bool
  | .idle | .workerWait | .workerReap => false
  | _ => true

def TracksHeld (config : Config) : Prop :=
  config.Nowhere Control.busy → config.shared.connection.isConnected = true →
    config.shared.roomOperationsEnabled = true → config.shared.roomComponentsStarted = true →
    ∀ sid ∈ config.shared.history.live, config.shared.Holds sid

def Control.stops (options : Options) (node : Node) : Control → Choice → Bool
  | .tickStop, _ | .workerStop _ _, _ => true
  | .tickStart, .started outcome =>
      !node.roomComponentsStarted && (node.initializeRoomComponents options outcome).isNone
  | _, _ => false

/-- Room components are stopped only while no track of the session in progress is live. -/
def StopGuarded (options : Options) (config : Config) (label : Nat × Choice) : Prop :=
  ∀ control ∈ config.threads[label.1]?, control.stops options config.shared label.2 = true →
    config.shared.history.live = []

instance (options : Options) (config : Config) (label : Nat × Choice) :
    Decidable (StopGuarded options config label) :=
  inferInstanceAs (Decidable (∀ control ∈ config.threads[label.1]?, _ → _))

theorem holds_keep {node node' : Node} {sid : String}
    (kept : node'.topicForwarder = some (node.topicForwarder.getD {})) :
    node'.Holds sid ↔ node.Holds sid := by
  unfold Node.Holds
  rw [kept]
  cases node.topicForwarder with
  | none => simp
  | some forwarder => rfl

theorem holds_unpublish {node : Node} {sid other : String} :
    (node.onDataTrackUnpublished sid).Holds other ↔ node.Holds other ∧ other ≠ sid := by
  unfold Node.Holds Node.onDataTrackUnpublished TopicForwarder.onDataTrackUnpublished
  cases node.topicForwarder <;> simp

theorem holds_accept {node : Node} {session : Nat} {sid other : String} {rejection : Option Rejection} :
    (node.acceptDataTrack session sid rejection).Holds other ↔
      node.Holds other ∨ (other = sid ∧ rejection = none ∧ node.topicForwarder.isSome = true) := by
  unfold Node.Holds Node.acceptDataTrack TopicForwarder.onDataTrackPublished
  cases held : node.topicForwarder with
  | none => simp
  | some forwarder =>
      cases rejection with
      | some reason => simp
      | none =>
          by_cases already : sid ∈ forwarder.inboundDataTrackStates
          · simp only [Option.map_some, Option.some.injEq, already, ↓reduceIte]
            grind
          · simp only [Option.map_some, Option.some.injEq, already, ↓reduceIte]
            grind

theorem holds_reconcile {options : Options} {node : Node} {now : Int} {publisherCount : String → Nat}
    {topics : TopicNamesAndTypes} {sid : String} :
    (node.reconcileComponents options now publisherCount topics).1.noteApplied.Holds sid ↔ node.Holds sid := by
  unfold Node.Holds Node.reconcileComponents
  split
  · simp only [Node.noteApplied]
    split
    · cases node.topicForwarder <;> simp [TopicForwarder.markAbsent]
    · rfl
  · rfl

theorem holds_reap {options : Options} {node : Node} {now : Int} {publisherCount : String → Nat}
    {before : List String} {sid : String} :
    ((node.reapInactiveSubscriptions options now publisherCount).noteReaped before).Holds sid ↔ node.Holds sid := by
  unfold Node.Holds Node.reapInactiveSubscriptions
  split
  · simp only [Node.noteReaped]
    cases node.topicForwarder <;> simp [TopicForwarder.reapExpiredSubscriptions]
  · rfl

theorem reapInactiveSubscriptions_history (options : Options) (node : Node) (now : Int) (publisherCount : String → Nat) :
    (node.reapInactiveSubscriptions options now publisherCount).history = node.history := by
  unfold Node.reapInactiveSubscriptions
  split <;> rfl

theorem holds_start {options : Options} {node : Node} {outcome : StartOutcome} {sid : String}
    (survives : Control.tickStart.stops options node (.started outcome) = false) :
    (node.startRoomComponents options outcome).Holds sid ↔ node.Holds sid := by
  rcases node.startRoomComponents_cases options outcome with same | ⟨stopped, failed, _⟩ |
    ⟨_, _, started⟩
  · rw [same]
  · simp [Control.stops, stopped, failed] at survives
  · rw [started]
    exact holds_keep rfl

section Transition

variable {options : Options} {node node' : Node} {before after : Control} {choice : Choice}

theorem Transition.live_held (transition : Transition options node before choice node' after)
    (guarded : before.stops options node choice = true → node.history.live = [])
    (held : ∀ sid ∈ node.history.live, node.Holds sid) :
    ∀ sid ∈ node'.history.live, node'.Holds sid := by
  intro sid live
  cases transition with
  | calledEos => cases live
  | unpublished gone =>
      obtain ⟨liveBefore, other⟩ := List.mem_filter.mp live
      exact holds_unpublish.mpr ⟨held sid liveBefore, of_decide_eq_true other⟩
  | tickStopped | workerStopped =>
      have none : node.history.live = [] := guarded rfl
      change sid ∈ node.history.live at live
      rw [none] at live
      cases live
  | tickEnsured outcome ensured ensures =>
      obtain rfl := Node.ensureTopicForwarder_eq ensures
      exact (holds_keep rfl).mpr (held sid live)
  | tickPolled now connected =>
      simp only [Node.pollManager] at live
      split at live
      · cases live
      · exact held sid live
  | tickStarted outcome =>
      rw [Node.startRoomComponents_history] at live
      cases stops : Control.tickStart.stops options node (.started outcome) with
      | false => exact (holds_start stops).mpr (held sid live)
      | true =>
          rw [guarded stops] at live
          cases live
  | publishedAccepted session accepted rejection =>
      simp only [Node.acceptDataTrack] at live
      split at live
      · simp only [Bool.and_eq_true, decide_eq_true_eq, Option.isNone_iff_eq_none] at *
        rcases List.mem_cons.mp live with rfl | earlier
        · exact holds_accept.mpr (.inr ⟨rfl, by simp_all⟩)
        · exact holds_accept.mpr (.inl (held sid earlier))
      · exact holds_accept.mpr (.inl (held sid live))
  | workerReconciled looping topics now publisherCount started =>
      have same : (node.reconcileComponents options now publisherCount topics).1.noteApplied.history = node.history := by
        simp [Node.reconcileComponents, started, Node.noteApplied]
      rw [same] at live
      exact holds_reconcile.mpr (held sid live)
  | workerReaped now publisherCount =>
      change sid ∈ (node.reapInactiveSubscriptions options now publisherCount).history.live at live
      rw [reapInactiveSubscriptions_history] at live
      exact holds_reap.mpr (held sid live)
  | _ => exact held sid live

/-- A track that no forwarder holds stays so until it is accepted. -/
theorem Transition.stays_unheld (transition : Transition options node before choice node' after)
    {sid : String} (unheld : ¬ node.Holds sid)
    (other : ∀ session, before ≠ .publishedAccept session sid) : ¬ node'.Holds sid := by
  cases transition with
  | unpublished gone => exact fun holds => unheld (holds_unpublish.mp holds).1
  | tickStopped | workerStopped =>
      intro kept
      obtain ⟨_, found, _⟩ := kept
      cases found
  | tickEnsured outcome ensured ensures =>
      obtain rfl := Node.ensureTopicForwarder_eq ensures
      exact fun holds => unheld ((holds_keep rfl).mp holds)
  | tickStarted outcome =>
      rcases node.startRoomComponents_cases options outcome with same | ⟨_, _, same⟩ | ⟨_, _, same⟩
      · rwa [same]
      · rw [same]
        intro kept
        obtain ⟨_, found, _⟩ := kept
        cases found
      · rw [same]
        exact fun holds => unheld ((holds_keep rfl).mp holds)
  | publishedAccepted session accepted rejection =>
      intro holds
      rcases holds_accept.mp holds with earlier | ⟨rfl, _⟩
      · exact unheld earlier
      · exact other session rfl
  | workerReconciled => exact fun holds => unheld (holds_reconcile.mp holds)
  | workerReaped => exact fun holds => unheld (holds_reap.mp holds)
  | _ => exact unheld

/-- A step that stops the components leaves no forwarder and the live tracks as they were. -/
theorem Transition.stopped (transition : Transition options node before choice node' after)
    (stops : before.stops options node choice = true) :
    node'.topicForwarder = none ∧ node'.history = node.history := by
  cases transition with
  | tickStopped | workerStopped => exact ⟨rfl, rfl⟩
  | tickStarted outcome =>
      simp only [Control.stops, Bool.and_eq_true, Bool.not_eq_true', Option.isNone_iff_eq_none] at stops
      obtain ⟨stopped, failed⟩ := stops
      simp [Node.startRoomComponents, stopped, failed, Node.stopRoomComponents]
  | _ => cases stops

end Transition

/-- Every live track is held, whatever the state of the room. -/
def LiveHeld (config : Config) : Prop :=
  ∀ sid ∈ config.shared.history.live, config.shared.Holds sid

theorem liveHeld_of_run {options : Options} {graph : TopicNamesAndTypes} {threads : Nat} {config : Config}
    (run : (program options).machine.Run (StopGuarded options) (initial graph threads) config) :
    LiveHeld config := by
  have start : LiveHeld (initial graph threads) := fun _ live => (nomatch live)
  refine run.invariant start ?_
  intro config next label held guarded stepped
  obtain ⟨before, after, step, transition⟩ := step_transition stepped
  exact transition.live_held (guarded before step.running) held

/-- The step does not let a track be accepted. -/
def NotAccepted (sid : String) (config : Config) (label : Nat × Choice) : Prop :=
  ∀ control ∈ config.threads[label.1]?, ∀ session, control ≠ .publishedAccept session sid

def Unheld (sid : String) (config : Config) : Prop := ¬ config.shared.Holds sid

theorem unheld_of_run {options : Options} {config final : Config} {sid : String}
    (run : (program options).machine.Run (NotAccepted sid) config final)
    (unheld : Unheld sid config) : Unheld sid final := by
  refine run.invariant unheld ?_
  intro config next label unheld other stepped
  obtain ⟨before, after, step, transition⟩ := step_transition stepped
  exact transition.stays_unheld unheld (other before step.running)

theorem lost_of_unguarded {options : Options} {config next : Config} {label : Nat × Choice}
    (unguarded : ¬ StopGuarded options config label)
    (stepped : (program options).machine.step? config label = some next) :
    ∃ sid ∈ next.shared.history.live, Unheld sid next := by
  obtain ⟨before, after, step, transition⟩ := step_transition stepped
  simp only [StopGuarded, step.running, Option.mem_some_iff, forall_eq', Classical.not_imp] at unguarded
  obtain ⟨stops, nonempty⟩ := unguarded
  obtain ⟨none, same⟩ := transition.stopped stops
  obtain ⟨sid, live⟩ := List.exists_mem_of_ne_nil _ nonempty
  refine ⟨sid, same ▸ live, ?_⟩
  intro kept
  obtain ⟨forwarder, found, _⟩ := kept
  rw [none] at found
  cases found

/-- No accepted track is lost inside a session in a run that stops the room components
only between sessions; a stop inside a session loses a track until it is announced again. -/
theorem tracks_held (options : Options) (graph : TopicNamesAndTypes) (threads : Nat) :
    (∀ config, (program options).machine.Run (StopGuarded options) (initial graph threads) config →
      TracksHeld config) ∧
    ∀ config label next, (program options).machine.Reaches (initial graph threads) config →
      ¬ StopGuarded options config label → (program options).machine.step? config label = some next →
      ∃ sid ∈ next.shared.history.live, ∀ final,
        (program options).machine.Run (NotAccepted sid) next final → Unheld sid final := by
  refine ⟨fun config run _ _ _ _ => liveHeld_of_run run, ?_⟩
  intro config label next _ unguarded stepped
  obtain ⟨sid, live, unheld⟩ := lost_of_unguarded unguarded stepped
  exact ⟨sid, live, fun final run => unheld_of_run run unheld⟩

/-- The worker finds the room down, a tick connects, and a track is announced and
accepted before the tick starts the room components. -/
def trackBeforeStart : List (Nat × Choice) :=
  [(0, .proceed), (0, .proceed), (0, .proceed), (0, .proceed)] ++
    [.call .pollConnection, .proceed, .proceed, .ensured true, .polled 0 true, .proceed].map (1, ·) ++
    [.call (.onDataTrackPublished "TR_1"), .proceed, .published none].map (2, ·)

theorem tracks_held_after_start :
    ∃ config, (program {}).machine.exec? (initial ⟨[], .nil⟩ 2)
        (trackBeforeStart ++ [(1, .started {})]) = some config ∧
      config.shared.history.live = ["TR_1"] ∧ TracksHeld config :=
  ⟨_, rfl, rfl, (tracks_held {} ⟨[], .nil⟩ 2).1 _
    (Machine.Run.of_exec (trackBeforeStart ++ [(1, .started {})]) rfl)⟩

/-- The first start fails to initialise the CLI manager and the next tick succeeds. -/
def secondStart : List (Nat × Choice) :=
  [.started { cliManager := false }, .call .pollConnection, .proceed, .proceed, .polled 1 true,
    .proceed, .started {}].map (1, ·)

/-- After `secondStart` the room is in operation and the accepted track is lost. -/
theorem tracks_not_held :
    ¬ ∀ (options : Options) (graph : TopicNamesAndTypes) (threads : Nat) (config : Config),
      (program options).machine.Reaches (initial graph threads) config → TracksHeld config := by
  intro always
  have reached : (program {}).machine.Reaches (initial ⟨[], .nil⟩ 2) _ :=
    .of_exec (trackBeforeStart ++ secondStart) rfl
  obtain ⟨forwarder, found, held⟩ :=
    always {} ⟨[], .nil⟩ 2 _ reached (by decide) rfl rfl rfl "TR_1" (by decide)
  cases found
  cases held

end RosPortal.Portal
