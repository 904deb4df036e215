import RosPortal.Portal.Transition

/-! Outbound forwarding across room sessions. The worker compares a snapshot with the
last one it applied, and not with the forwarders it applied that one to, nor with what
has been reaped from them since. -/

set_option autoImplicit false

namespace RosPortal.Portal

open Interleaving Connection

/-- Outbound forwarding covers the current snapshot, if the room is in operation. -/
def Restored (options : Options) (node : Node) : Prop :=
  node.roomComponentsStarted = true → node.roomOperationsEnabled = true →
    ∃ topics, node.graphManager.topics = some topics ∧
      (∀ entry ∈ topics.entries, TopicForwarder.forwards options entry = true →
        ∃ forwarder, node.topicForwarder = some forwarder ∧ forwarder.subscribed entry.1 = true) ∧
      ∀ topicName ∈ options.outboundTopics, topics.contains topicName = true →
        ∃ forwarder, node.latchedTopicForwarder = some forwarder ∧
          forwarder.subscribed topicName = true

/-- The snapshot that the worker is handling. -/
def Control.held : Control → Option TopicNamesAndTypes
  | .workerCompare _ topics | .workerEnded _ topics | .workerStop _ topics | .workerOperations _ topics
  | .workerReconcile _ topics | .workerRecord _ topics => some topics
  | _ => none

def held (config : Config) : Option TopicNamesAndTypes := config.threads[0]?.bind Control.held

/-- The worker finishes handling a graph event, or its first pass, in this step. -/
structure HandlingFinished (config next : Config) : Prop where
  handling : held config ≠ none
  finished : held next = none

/-- The snapshot with which the worker is about to finish without having been refused. -/
def Control.finishingWith (graphManager : GraphManager) : Control → Option TopicNamesAndTypes
  | .workerCompare _ topics => if graphManager.unchanged topics then some topics else none
  | .workerRecord _ topics => some topics
  | _ => none

/-- Of what the snapshot has for the topic forwarder, nothing was stopped or reaped since the worker
last applied a snapshot. -/
def TopicsKept (options : Options) (node : Node) (topics : TopicNamesAndTypes) : Prop :=
  ∀ entry ∈ topics.entries, TopicForwarder.forwards options entry = true →
    node.forwarding.applied = true ∧ entry.1 ∉ node.forwarding.reaped

/-- Of what the snapshot has for the latched forwarder, nothing was stopped since then. -/
def LatchedKept (options : Options) (node : Node) (topics : TopicNamesAndTypes) : Prop :=
  ∀ topicName ∈ options.outboundTopics, topics.contains topicName = true → node.forwarding.applied = true

instance (options : Options) (node : Node) (topics : TopicNamesAndTypes) :
    Decidable (TopicsKept options node topics) :=
  inferInstanceAs (Decidable (∀ entry ∈ topics.entries, _ → _))

instance (options : Options) (node : Node) (topics : TopicNamesAndTypes) :
    Decidable (LatchedKept options node topics) :=
  inferInstanceAs (Decidable (∀ topicName ∈ options.outboundTopics, _ → _))

/-- Since the snapshot with which the worker finishes was applied, the room components were not
stopped, and none of its topics was reaped. -/
def SnapshotCurrent (options : Options) (config : Config) : Prop :=
  ∀ control ∈ config.threads[0]?, ∀ topics ∈ control.finishingWith config.shared.graphManager,
    config.shared.roomComponentsStarted = true → config.shared.roomOperationsEnabled = true →
    TopicsKept options config.shared topics ∧ LatchedKept options config.shared topics

instance (options : Options) (config : Config) : Decidable (SnapshotCurrent options config) := by
  unfold SnapshotCurrent
  infer_instance

/-- The snapshot lists every outbound latched topic with a type. -/
def SnapshotTyped (options : Options) (config : Config) : Prop :=
  ∀ control ∈ config.threads[0]?, ∀ topics ∈ control.finishingWith config.shared.graphManager,
    ∀ topicName ∈ options.outboundTopics, topics.find topicName ≠ some []

instance (options : Options) (config : Config) : Decidable (SnapshotTyped options config) := by
  unfold SnapshotTyped
  infer_instance

/-- The snapshot that the worker has applied and not yet recorded. -/
def Control.recording : Control → Option TopicNamesAndTypes
  | .workerRecord _ topics => some topics
  | _ => none

@[simp] theorem afterPass_held (looping : Bool) : (afterPass looping).held = none := by
  cases looping <;> rfl

@[simp] theorem afterPass_recording (looping : Bool) : (afterPass looping).recording = none := by
  cases looping <;> rfl

def lastApplied (config : Config) : Option TopicNamesAndTypes :=
  (config.threads[0]?.bind Control.recording).or config.shared.graphManager.lastReconciledTopics

/-- What the forwarders have to do with the snapshot last applied, and with what happened since. -/
structure Kept (options : Options) (last : Option TopicNamesAndTypes) (started : Bool)
    (topicForwarder : Option TopicForwarder) (latchedTopicForwarder : Option LatchedTopicForwarder)
    (forwarding : Forwarding) : Prop where
  present : started = true → topicForwarder.isSome = true ∧
    (options.outboundTopics ≠ [] → latchedTopicForwarder.isSome = true)
  started : forwarding.applied = true → started = true
  topics : forwarding.applied = true → ∀ topics ∈ last, ∀ entry ∈ topics.entries,
    TopicForwarder.forwards options entry = true → entry.1 ∉ forwarding.reaped →
      ∀ forwarder ∈ topicForwarder, forwarder.subscribed entry.1 = true
  latched : forwarding.applied = true → ∀ topics ∈ last, ∀ topicName ∈ options.outboundTopics,
    topics.contains topicName = true → topics.find topicName ≠ some [] →
      ∀ forwarder ∈ latchedTopicForwarder, forwarder.subscribed topicName = true
  fresh : forwarding.applied = false → (∀ forwarder ∈ topicForwarder, forwarder.subscriptions = []) ∧
    ∀ forwarder ∈ latchedTopicForwarder, forwarder.subscriptions = []
  gone : ∀ topicName ∈ forwarding.reaped, ∀ forwarder ∈ topicForwarder, forwarder.subscribed topicName = false

abbrev Node.Kept (options : Options) (last : Option TopicNamesAndTypes) (node : Node) : Prop :=
  Portal.Kept options last node.roomComponentsStarted node.topicForwarder node.latchedTopicForwarder node.forwarding

section Forwarders

variable {options : Options} {last : Option TopicNamesAndTypes} {node : Node}

theorem kept_stopped (forwarding : Forwarding) (stopped : forwarding.applied = false) :
    Kept options last false none none forwarding := by
  constructor <;> simp [stopped]

theorem Node.Kept.update (kept : node.Kept options last) {update : TopicForwarder → TopicForwarder}
    (keeps : ∀ forwarder, (update forwarder).subscriptions = forwarder.subscriptions) :
    Portal.Kept options last node.roomComponentsStarted (node.topicForwarder.map update)
      node.latchedTopicForwarder node.forwarding := by
  have subscribed : ∀ forwarder topicName, (update forwarder).subscribed topicName = forwarder.subscribed topicName := by
    intro forwarder topicName
    rw [TopicForwarder.subscribed, keeps]
    rfl
  refine ⟨by simpa using kept.present, kept.started, ?_, kept.latched, ?_, ?_⟩
  · simpa [subscribed] using kept.topics
  · simpa [keeps] using kept.fresh
  · simpa [subscribed] using kept.gone

theorem Node.Kept.ensure (kept : node.Kept options last) :
    Portal.Kept options last node.roomComponentsStarted (some (node.topicForwarder.getD {}))
      node.latchedTopicForwarder node.forwarding := by
  cases found : node.topicForwarder with
  | some forwarder => exact found ▸ kept
  | none =>
      have stopped : node.roomComponentsStarted = false := by
        by_contra started
        have present := (kept.present (by simpa using started)).1
        simp [found] at present
      have unapplied : node.forwarding.applied = false := by
        by_contra applied
        have started := kept.started (by simpa using applied)
        simp [stopped] at started
      refine ⟨?_, kept.started, ?_, kept.latched, fun none => ⟨?_, (kept.fresh none).2⟩, ?_⟩
      · simp [stopped]
      · simp [unapplied]
      · simp
      · simp [TopicForwarder.subscribed]

theorem Node.Kept.start (kept : node.Kept options last) (outcome : StartOutcome) :
    (node.startRoomComponents options outcome).Kept options last := by
  by_cases started : node.roomComponentsStarted = true
  · rw [Node.startRoomComponents, if_pos started]
    exact kept
  · have unapplied : node.forwarding.applied = false := by
      by_contra applied
      exact started (kept.started (by simpa using applied))
    rcases node.startRoomComponents_cases options outcome with same | ⟨_, _, stopped⟩ | ⟨latched, origin, same⟩
    · rw [same]
      exact kept
    · rw [stopped]
      exact kept_stopped _ unapplied
    · rw [same]
      have ensured := kept.ensure
      refine ⟨fun _ => ⟨rfl, fun configured => ?_⟩, fun _ => rfl, ensured.topics, ?_, fun none => ⟨(ensured.fresh none).1, ?_⟩,
        ensured.gone⟩
      · rcases origin with ⟨_, unconfigured⟩ | rfl
        · exact absurd unconfigured configured
        · rfl
      · simp [unapplied]
      · rcases origin with ⟨rfl, _⟩ | rfl
        · exact (kept.fresh none).2
        · simp

/-- What applies a snapshot subscribes to all of it. -/
theorem Node.Kept.reconcile (kept : node.Kept options last) (started : node.roomComponentsStarted = true)
    (now : Int) (publisherCount : String → Nat) (topics : TopicNamesAndTypes) :
    ((node.reconcileComponents options now publisherCount topics).1.noteApplied).Kept options (some topics) := by
  simp only [Node.reconcileComponents, started, ↓reduceIte, Node.Kept, Node.noteApplied]
  obtain ⟨held, latchedHeld⟩ := kept.present started
  refine ⟨fun _ => ⟨?_, fun configured => ?_⟩, fun _ => rfl, ?_, ?_, by simp, by simp⟩
  · split <;> simp [held]
  · split <;> simp [latchedHeld configured]
  · rintro - applied ⟨⟩ entry listed wanted - forwarder found
    have needs : TopicForwarder.needsGraphDiscovery options = true := by
      unfold TopicForwarder.needsGraphDiscovery
      cases patterns : options.outgoingTopicPatterns with
      | nil => simp [TopicForwarder.forwards, patterns, matchesAnyPattern] at wanted
      | cons => rfl
    rw [if_pos needs] at found
    obtain ⟨earlier, _, rfl⟩ := Option.map_eq_some_iff.mp found
    exact TopicForwarder.reconcileTopics_subscribes listed wanted
  · rintro - applied ⟨⟩ topicName configured listed typed forwarder found
    have needs : LatchedTopicForwarder.needsGraphDiscovery options = true := by
      unfold LatchedTopicForwarder.needsGraphDiscovery
      cases outbound : options.outboundTopics with
      | nil => simp [outbound] at configured
      | cons => rfl
    rw [if_pos needs] at found
    obtain ⟨earlier, _, rfl⟩ := Option.map_eq_some_iff.mp found
    exact LatchedTopicForwarder.reconcileTopics_subscribes configured listed typed

theorem TopicForwarder.subscribed_iff {forwarder : TopicForwarder} {topicName : String} :
    forwarder.subscribed topicName = true ↔ topicName ∈ forwarder.subscriptions.map Prod.fst := by
  simp [TopicForwarder.subscribed]

/-- What a forwarder loses is recorded. -/
theorem Node.Kept.shrink (kept : node.Kept options last) {update : TopicForwarder → TopicForwarder}
    (shrinks : ∀ forwarder, (update forwarder).subscriptions ⊆ forwarder.subscriptions) :
    (({ node with topicForwarder := node.topicForwarder.map update } : Node).noteReaped node.subscribedTopics).Kept
      options last := by
  have left : ∀ {forwarder : TopicForwarder} {topicName : String}, (update forwarder).subscribed topicName = true →
      forwarder.subscribed topicName = true := by
    intro forwarder topicName
    rw [TopicForwarder.subscribed_iff, TopicForwarder.subscribed_iff]
    exact fun subscribed => List.map_subset _ (shrinks forwarder) subscribed
  cases found : node.topicForwarder with
  | none =>
      simpa [Node.Kept, Node.noteReaped, Node.subscribedTopics, found] using kept
  | some forwarder =>
      rw [Node.Kept, found] at kept
      simp only [Node.Kept, Node.noteReaped, Node.subscribedTopics, found, Option.map_some, Option.elim_some]
      refine ⟨fun started => ⟨rfl, (kept.present started).2⟩, kept.started, ?_, kept.latched, ?_, ?_⟩
      · rintro applied topics same entry listed wanted unreaped _ ⟨⟩
        rw [List.mem_append, not_or] at unreaped
        have before := kept.topics applied topics same entry listed wanted unreaped.2 forwarder rfl
        by_contra lost
        rw [TopicForwarder.subscribed_iff] at before lost
        exact unreaped.1 (List.mem_filter.mpr ⟨before, decide_eq_true lost⟩)
      · intro none
        obtain ⟨empty, latched⟩ := kept.fresh none
        refine ⟨?_, latched⟩
        rintro _ ⟨⟩
        have nothing := shrinks forwarder
        rw [empty forwarder rfl] at nothing
        exact List.subset_nil.mp nothing
      · rintro topicName reaped _ ⟨⟩
        rw [← Bool.not_eq_true]
        intro subscribed
        rcases List.mem_append.mp reaped with now | earlier
        · have lost := of_decide_eq_true (List.mem_filter.mp now).2
          exact lost (TopicForwarder.subscribed_iff.mp subscribed)
        · have gone := kept.gone topicName earlier forwarder rfl
          rw [left subscribed] at gone
          cases gone

theorem Node.Kept.reap (kept : node.Kept options last) (now : Int) (publisherCount : String → Nat) :
    ((node.reapInactiveSubscriptions options now publisherCount).noteReaped node.subscribedTopics).Kept options last := by
  unfold Node.reapInactiveSubscriptions
  split
  · exact kept.shrink fun forwarder => List.filter_subset_self _
  · have unreaped : ∀ forwarder : TopicForwarder, (id forwarder).subscriptions ⊆ forwarder.subscriptions :=
      fun forwarder => List.Subset.refl _
    have same := kept.shrink unreaped
    rwa [Option.map_id] at same

end Forwarders

section Transition

variable {options : Options} {node node' : Node} {before after : Control} {choice : Choice}
  {last : Option TopicNamesAndTypes}

/-- Each step keeps the forwarders in step with the snapshot that is last applied after it. -/
theorem Transition.kept (transition : Transition options node before choice node' after)
    (kept : node.Kept options last) : node'.Kept options (after.recording.or last) := by
  cases transition with
  | tickStopped | workerStopped => exact kept_stopped _ rfl
  | tickEnsured outcome ensured ensures =>
      obtain rfl := Node.ensureTopicForwarder_eq ensures
      exact kept.ensure
  | tickStarted outcome => exact kept.start outcome
  | unpublished sid => exact kept.update fun _ => rfl
  | publishedAccepted session sid rejection =>
      refine kept.update fun forwarder => ?_
      unfold TopicForwarder.onDataTrackPublished
      split
      · rfl
      · split <;> rfl
  | workerReconciled looping topics now publisherCount started =>
      exact kept.reconcile started now publisherCount topics
  | workerReaped now publisherCount => exact kept.reap now publisherCount
  | workerUnchanged | workerDisabled | workerSkipped | workerRecorded =>
      rw [afterPass_recording]
      exact kept
  | _ => exact kept

/-- The cache keeps a snapshot until the worker invalidates it, and the recorded
snapshot changes when the worker records one. -/
theorem Transition.graphManager_cases
    (transition : Transition options node before choice node' after) :
    (∀ topics, node.graphManager.topics = some topics → before ≠ .workerInvalidate →
      node'.graphManager.topics = some topics) ∧
    node'.graphManager.lastReconciledTopics = before.recording.or node.graphManager.lastReconciledTopics := by
  cases transition with
  | snapshotRead | workerSnapshot =>
      refine ⟨fun topics held _ => ?_, rfl⟩
      simp [GraphManager.cacheSnapshot, GraphManager.snapshot, held]
  | workerInvalidated => exact ⟨fun _ _ other => absurd rfl other, rfl⟩
  | tickEnsured outcome ensured ensures =>
      obtain rfl := Node.ensureTopicForwarder_eq ensures
      exact ⟨fun _ held _ => held, rfl⟩
  | tickStarted outcome =>
      rcases node.startRoomComponents_cases options outcome with same | ⟨_, _, stopped⟩ | ⟨_, _, started⟩
      · rw [same]
        exact ⟨fun _ held _ => held, rfl⟩
      · rw [stopped]
        exact ⟨fun _ held _ => held, rfl⟩
      · rw [started]
        exact ⟨fun _ held _ => held, rfl⟩
  | workerReconciled looping topics now publisherCount started =>
      have same : (node.reconcileComponents options now publisherCount topics).1.noteApplied.graphManager =
          node.graphManager := by
        simp [Node.reconcileComponents, started, Node.noteApplied]
      rw [same]
      exact ⟨fun _ held _ => held, rfl⟩
  | workerReaped now publisherCount =>
      have same : ((node.reapInactiveSubscriptions options now publisherCount).noteReaped
          node.subscribedTopics).graphManager = node.graphManager := by
        unfold Node.reapInactiveSubscriptions
        split <;> rfl
      rw [same]
      exact ⟨fun _ held _ => held, rfl⟩
  | _ => exact ⟨fun _ held _ => held, rfl⟩

theorem Transition.held_cases (transition : Transition options node before choice node' after)
    {topics : TopicNamesAndTypes} (held : after.held = some topics) :
    before.held = some topics ∨ node'.graphManager.topics = some topics := by
  cases transition with
  | workerSnapshot =>
      cases held
      exact .inr rfl
  | workerChanged | workerEnding | workerNotEnded | workerStopped | workerEnabled | workerReconciled =>
      exact .inl held
  | workerUnchanged | workerDisabled | workerSkipped | workerRecorded =>
      rw [afterPass_held] at held
      cases held
  | _ => cases held

end Transition

/-- The worker's snapshot is the cached one, and the forwarders are in step with the one last applied. -/
structure DiscoveryInvariant (options : Options) (config : Config) : Prop where
  cached : ∀ control ∈ config.threads[0]?, ∀ topics ∈ control.held,
    config.shared.graphManager.topics = some topics
  kept : config.shared.Kept options (lastApplied config)

theorem discoveryInvariant_initial (options : Options) (graph : TopicNamesAndTypes) (threads : Nat) :
    DiscoveryInvariant options (initial graph threads) := by
  constructor
  · intro control running topics holds
    cases running
    cases holds
  · constructor <;> simp [initial]

section Step

variable {options : Options} {config next : Config} {thread : Nat} {choice : Choice}
  {before after : Control}

theorem recording_worker {control : Control} {topics : TopicNamesAndTypes}
    (recording : control.recording = some topics) : control.worker = true := by
  cases control <;> first | rfl | cases recording

theorem lastApplied_step (single : SingleWorker config)
    (step : (program options).StepOf config thread choice next before after)
    (transition : Transition options config.shared before choice next.shared after) :
    lastApplied next = after.recording.or (lastApplied config) := by
  have worker := single _ _ step.running
  rw [lastApplied, transition.graphManager_cases.2]
  by_cases here : thread = 0
  · subst here
    rw [step.advancedTo, lastApplied, step.running]
    rfl
  · have outside : ∀ control : Control, control.worker = false → control.recording = none := by
      intro control other
      by_contra recording
      obtain ⟨topics, same⟩ := Option.ne_none_iff_exists'.mp recording
      rw [recording_worker same] at other
      cases other
    have elsewhere : before.worker = false := by simpa [here] using worker
    rw [outside before elsewhere, outside after (transition.worker.trans elsewhere), step.others 0 (Ne.symm here)]
    rfl

theorem DiscoveryInvariant.cached_step (inv : DiscoveryInvariant options config)
    (single : SingleWorker config)
    (step : (program options).StepOf config thread choice next before after)
    (transition : Transition options config.shared before choice next.shared after)
    {control : Control} (found : next.threads[0]? = some control) {topics : TopicNamesAndTypes}
    (held : control.held = some topics) : next.shared.graphManager.topics = some topics := by
  have keeps := transition.graphManager_cases.1 topics
  rcases step.thread_cases found with ⟨rfl, rfl⟩ | ⟨different, earlier⟩
  · rcases transition.held_cases held with heldBefore | cached
    · refine keeps (inv.cached _ step.running topics heldBefore) ?_
      rintro rfl
      cases heldBefore
    · exact cached
  · refine keeps (inv.cached _ earlier topics held) ?_
    rintro rfl
    have worker := single _ _ step.running
    simp [Control.worker, different.symm] at worker

theorem discoveryInvariant_step (inv : DiscoveryInvariant options config) (single : SingleWorker config)
    (step : (program options).StepOf config thread choice next before after)
    (transition : Transition options config.shared before choice next.shared after) :
    DiscoveryInvariant options next := by
  refine ⟨fun _ found _ held => inv.cached_step single step transition found held, ?_⟩
  rw [lastApplied_step single step transition]
  exact transition.kept inv.kept

end Step

theorem discoveryInvariant_of_run {options : Options} {permitted : Config → Nat × Choice → Prop}
    {graph : TopicNamesAndTypes} {threads : Nat} {config : Config}
    (run : (program options).machine.Run permitted (initial graph threads) config) :
    DiscoveryInvariant options config := by
  refine run.invariant_with singleWorker_of_run (discoveryInvariant_initial options graph threads) ?_
  intro config next label single inv _ stepped
  obtain ⟨before, after, step, transition⟩ := step_transition stepped
  exact discoveryInvariant_step inv single step transition

/-- How the worker finishes: it was refused because the room is not in operation, or
it has a snapshot that it takes as applied. -/
theorem finishing_cases {options : Options} {config next : Config} {label : Nat × Choice}
    (stepped : (program options).machine.step? config label = some next)
    (finished : HandlingFinished config next) :
    ((next.shared.roomComponentsStarted = false ∨ next.shared.roomOperationsEnabled = false) ∧
      ∀ control ∈ config.threads[0]?, control.finishingWith config.shared.graphManager = none) ∨
    ∃ control topics, config.threads[0]? = some control ∧
      control.finishingWith config.shared.graphManager = some topics ∧ control.held = some topics ∧
      next.shared.topicForwarder = config.shared.topicForwarder ∧
      next.shared.latchedTopicForwarder = config.shared.latchedTopicForwarder ∧
      next.shared.graphManager.topics = config.shared.graphManager.topics ∧
      next.shared.roomComponentsStarted = config.shared.roomComponentsStarted ∧
      next.shared.roomOperationsEnabled = config.shared.roomOperationsEnabled := by
  obtain ⟨before, after, step, transition⟩ := step_transition stepped
  obtain ⟨handling, finished⟩ := finished
  have here : label.1 = 0 := by
    by_contra elsewhere
    rw [held, step.others 0 (Ne.symm elsewhere)] at finished
    exact handling finished
  have running := here ▸ step.running
  rw [held, running] at handling
  rw [held, show next.threads[0]? = some after from here ▸ step.advancedTo] at finished
  obtain ⟨thread, choice⟩ := label
  obtain ⟨node', threads'⟩ := next
  change Transition options config.shared before choice node' after at transition
  cases transition with
  | workerUnchanged looping topics same =>
      exact .inr ⟨_, topics, running, by simp [Control.finishingWith, same], rfl, rfl, rfl, rfl, rfl, rfl⟩
  | workerRecorded looping topics => exact .inr ⟨_, topics, running, rfl, rfl, rfl, rfl, rfl, rfl, rfl⟩
  | workerDisabled looping topics disabled =>
      refine .inl ⟨.inr disabled, fun control found => ?_⟩
      cases running.symm.trans found
      rfl
  | workerSkipped looping topics now publisherCount stopped =>
      refine .inl ⟨.inl stopped, fun control found => ?_⟩
      cases running.symm.trans found
      rfl
  | workerChanged | workerEnding | workerNotEnded | workerStopped | workerEnabled | workerReconciled => cases finished
  | _ => exact absurd rfl handling

theorem lastApplied_finishing {config : Config} {control : Control} {topics : TopicNamesAndTypes}
    (running : config.threads[0]? = some control)
    (finishing : control.finishingWith config.shared.graphManager = some topics) :
    lastApplied config = some topics := by
  unfold lastApplied
  rw [running]
  cases control with
  | workerCompare looping compared =>
      by_cases same : config.shared.graphManager.unchanged compared = true
      · simp only [Control.finishingWith, same, ↓reduceIte] at finishing
        cases finishing
        exact of_decide_eq_true same
      · simp [Control.finishingWith, same] at finishing
  | workerRecord looping recorded => exact finishing
  | _ => cases finishing

theorem restored_of_current {options : Options} {config next : Config} {label : Nat × Choice}
    (inv : DiscoveryInvariant options config)
    (stepped : (program options).machine.step? config label = some next)
    (finished : HandlingFinished config next) (current : SnapshotCurrent options config)
    (typed : SnapshotTyped options config) : Restored options next.shared := by
  intro started enabled
  rcases finishing_cases stepped finished with ⟨refused, _⟩ |
    ⟨control, topics, running, finishing, held, sameTopics, sameLatched, sameCache, sameStarted,
      sameEnabled⟩
  · simp [started, enabled] at refused
  · rw [sameStarted] at started
    rw [sameEnabled] at enabled
    have last := lastApplied_finishing running finishing
    obtain ⟨topicsKept, latchedKept⟩ := current control running topics finishing started enabled
    obtain ⟨present, latchedPresent⟩ := inv.kept.present started
    refine ⟨topics, sameCache.trans (inv.cached control running topics held), ?_, ?_⟩
    · intro entry listed wanted
      obtain ⟨applied, unreaped⟩ := topicsKept entry listed wanted
      obtain ⟨forwarder, found⟩ := Option.isSome_iff_exists.mp present
      exact ⟨forwarder, sameTopics.trans found, inv.kept.topics applied topics last entry listed wanted unreaped
        forwarder found⟩
    · intro topicName configured listed
      obtain ⟨forwarder, found⟩ := Option.isSome_iff_exists.mp (latchedPresent (List.ne_nil_of_mem configured))
      exact ⟨forwarder, sameLatched.trans found, inv.kept.latched (latchedKept topicName configured listed) topics last
        topicName configured listed (typed control running topics finishing topicName configured) forwarder found⟩

theorem current_of_restored {options : Options} {config next : Config} {label : Nat × Choice}
    (inv : DiscoveryInvariant options config)
    (stepped : (program options).machine.step? config label = some next)
    (finished : HandlingFinished config next) (restored : Restored options next.shared) :
    SnapshotCurrent options config := by
  intro control running topics finishing started enabled
  rcases finishing_cases stepped finished with ⟨_, refused⟩ |
    ⟨control', topics', running', finishing', held, sameTopics, sameLatched, sameCache, sameStarted,
      sameEnabled⟩
  · cases (refused control running).symm.trans finishing
  · cases running.symm.trans running'
    cases finishing.symm.trans finishing'
    obtain ⟨cached, sameCached, topicsRestored, latchedRestored⟩ :=
      restored (sameStarted.trans started) (sameEnabled.trans enabled)
    cases (inv.cached control running topics held).symm.trans (sameCache.symm.trans sameCached)
    rw [sameTopics] at topicsRestored
    rw [sameLatched] at latchedRestored
    constructor
    · intro entry listed wanted
      obtain ⟨forwarder, found, subscribed⟩ := topicsRestored entry listed wanted
      constructor
      · by_contra unapplied
        have empty := (inv.kept.fresh (by simpa using unapplied)).1 forwarder found
        simp [TopicForwarder.subscribed, empty] at subscribed
      · intro reaped
        rw [inv.kept.gone _ reaped forwarder found] at subscribed
        cases subscribed
    · intro topicName configured listed
      obtain ⟨forwarder, found, subscribed⟩ := latchedRestored topicName configured listed
      by_contra unapplied
      have empty := (inv.kept.fresh (by simpa using unapplied)).2 forwarder found
      simp [LatchedTopicForwarder.subscribed, empty] at subscribed

/-- Whenever the worker finishes handling a graph event, in any run, outbound forwarding
covers the snapshot if since that snapshot was applied the room components were not stopped
and none of its topics was reaped, and only then. -/
theorem forwarding_restored (options : Options) (graph : TopicNamesAndTypes) (threads : Nat)
    (config next : Config) (label : Nat × Choice)
    (reached : (program options).machine.Reaches (initial graph threads) config)
    (stepped : (program options).machine.step? config label = some next)
    (finished : HandlingFinished config next) :
    (SnapshotCurrent options config ∧ SnapshotTyped options config → Restored options next.shared) ∧
      (Restored options next.shared → SnapshotCurrent options config) := by
  have inv := discoveryInvariant_of_run reached
  exact ⟨fun ⟨current, typed⟩ => restored_of_current inv stepped finished current typed,
    current_of_restored inv stepped finished⟩

def chatter : TopicNamesAndTypes := ⟨[("/chatter", ["std_msgs/msg/String"])], by decide⟩

def forwardEverything : Options := { outgoingTopicPatterns := [fun _ => true] }

/-- A tick that finds the room down, connects and starts the components. -/
def joinTick (now : Int) : List (Nat × Choice) :=
  [.call .pollConnection, .proceed, .proceed, .ensured true, .polled now true, .proceed,
    .started {}].map (1, ·)

/-- A graph event up to the comparison of its snapshot. -/
def graphEvent : List (Nat × Choice) :=
  [(2, .graphEvent), (0, .proceed), (0, .proceed), (0, .proceed), (0, .proceed)]

/-- The topic has a publisher. -/
def published : Choice := .observed 0 fun _ => 1

/-- The session starts and the worker applies the snapshot of a graph event. -/
def firstSession : List (Nat × Choice) :=
  [(0, .proceed), (0, .proceed), (0, .proceed), (0, .proceed)] ++ joinTick 0 ++ graphEvent ++
    [(0, .proceed), (0, .proceed), (0, .proceed), (0, published)]

/-- The room ends and the next tick tears down, reconnects and starts again. -/
def secondSession : List (Nat × Choice) :=
  [(2, .call .onRoomEos), (2, .proceed)] ++
    [.call .pollConnection, .proceed, .proceed, .proceed, .ensured true, .polled kRetryInterval true,
      .proceed, .started {}].map (1, ·)

theorem forwarding_restored_in_first_session :
    ∃ config next, (program forwardEverything).machine.exec? (initial chatter 2) firstSession = some config ∧
      (program forwardEverything).machine.step? config (0, .proceed) = some next ∧
      next.shared.roomComponentsStarted = true ∧ Restored forwardEverything next.shared := by
  refine ⟨_, _, rfl, rfl, rfl, ?_⟩
  exact (forwarding_restored forwardEverything chatter 2 _ _ (0, .proceed)
    (.of_exec firstSession rfl) rfl ⟨by decide, rfl⟩).1 (by decide)

/-- In the second session the same topics are found, and nothing subscribes to them. -/
theorem forwarding_not_restored :
    ¬ ∀ (options : Options) (graph : TopicNamesAndTypes) (threads : Nat) (config next : Config)
      (label : Nat × Choice), (program options).machine.Reaches (initial graph threads) config →
      (program options).machine.step? config label = some next → HandlingFinished config next →
      Restored options next.shared := by
  intro always
  have reached : (program forwardEverything).machine.Reaches (initial chatter 2) _ :=
    .of_exec (firstSession ++ [(0, .proceed), (0, published)] ++ secondSession ++ graphEvent) rfl
  have restored := always forwardEverything chatter 2 _ _ (0, .proceed) reached rfl ⟨by decide, rfl⟩
  obtain ⟨topics, cached, covered, _⟩ := restored rfl rfl
  cases cached
  obtain ⟨forwarder, held, subscribed⟩ :=
    covered ("/chatter", ["std_msgs/msg/String"]) (by decide) (by decide)
  cases held
  cases subscribed

end RosPortal.Portal
