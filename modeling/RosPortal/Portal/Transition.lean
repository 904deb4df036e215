import RosPortal.Portal.Node

/-! Everything one step of the node can do, one constructor for each outcome. -/

set_option autoImplicit false

namespace RosPortal.Portal

open Interleaving Connection

/-- The steps of `advance`, with the guard under which each is taken. -/
inductive Transition (options : Options) (node : Node) : Control → Choice → Node → Control → Prop where
  | calledPoll : Transition options node .idle (.call .pollConnection) node .tickEnded
  | calledEos : Transition options node .idle (.call .onRoomEos) node.endSession .eosManager
  | connectionChanged (state : SdkConnectionState) :
      Transition options node .idle (.call (.onConnectionStateChanged state))
        { node with connection := node.connection.handle (.onConnectionStateChanged state) } .idle
  | calledPublished (sid : String) :
      Transition options node .idle (.call (.onDataTrackPublished sid)) node
        (.publishedWait node.history.session sid)
  | unpublished (sid : String) :
      Transition options node .idle (.call (.onDataTrackUnpublished sid))
        (node.onDataTrackUnpublished sid) .idle
  | snapshotRead :
      Transition options node .idle (.call .readSnapshot)
        { node with graphManager := node.graphManager.cacheSnapshot node.graph } .idle
  | graphChanged (graph : TopicNamesAndTypes) :
      Transition options node .idle (.graphChanged graph) { node with graph } .idle
  | graphEvent :
      Transition options node .idle .graphEvent
        { node with graphManager := { node.graphManager with event := true } } .idle
  | tickEnding : node.roomSessionEnded = true →
      Transition options node .tickEnded .proceed { node with roomSessionEnded := false } .tickStop
  | tickNotEnded : node.roomSessionEnded = false →
      Transition options node .tickEnded .proceed node .tickConnected
  | tickStopped :
      Transition options node .tickStop .proceed node.stopRoomComponents.noteStopped .tickConnected
  | tickIsConnected : node.connection.isConnected = true →
      Transition options node .tickConnected .proceed node .tickPoll
  | tickIsNotConnected : node.connection.isConnected = false →
      Transition options node .tickConnected .proceed node .tickEnsure
  | tickEnsured (outcome : Bool) (ensured : Node) : node.ensureTopicForwarder outcome = some ensured →
      Transition options node .tickEnsure (.ensured outcome) ensured .tickPoll
  | tickNotEnsured (outcome : Bool) : node.ensureTopicForwarder outcome = none →
      Transition options node .tickEnsure (.ensured outcome) node .idle
  | tickPolled (now : Int) (connected : Bool) :
      Transition options node .tickPoll (.polled now connected) (node.pollManager now connected)
        .tickJoined
  | tickHasJoined : node.connection.isConnected = true →
      Transition options node .tickJoined .proceed node .tickStart
  | tickHasNotJoined : node.connection.isConnected = false →
      Transition options node .tickJoined .proceed node .idle
  | tickStarted (outcome : StartOutcome) :
      Transition options node .tickStart (.started outcome) (node.startRoomComponents options outcome)
        .idle
  | eosHandled :
      Transition options node .eosManager .proceed
        { node with connection := node.connection.onRoomEos } .idle
  | publishedReleased (session : Nat) (sid : String) : node.connection.released = true →
      node.roomOperationsEnabled = true →
      Transition options node (.publishedWait session sid) .proceed node (.publishedAccept session sid)
  | publishedDropped (session : Nat) (sid : String) : node.connection.released = true →
      node.roomOperationsEnabled = false →
      Transition options node (.publishedWait session sid) .proceed node .idle
  | publishedAccepted (session : Nat) (sid : String) (rejection : Option Rejection) :
      Transition options node (.publishedAccept session sid) (.published rejection)
        (node.acceptDataTrack session sid rejection) .idle
  | workerWoken : node.graphManager.event = true →
      Transition options node .workerWait .proceed
        { node with graphManager := node.graphManager.clearEvent } .workerSettle
  | workerWaited : node.graphManager.event = false →
      Transition options node .workerWait .proceed node .workerReap
  | workerSettled :
      Transition options node .workerSettle .proceed
        { node with graphManager := node.graphManager.clearEvent } .workerInvalidate
  | workerInvalidated :
      Transition options node .workerInvalidate .proceed
        { node with graphManager := node.graphManager.invalidate } (.workerTopics true)
  | workerSnapshot (looping : Bool) :
      Transition options node (.workerTopics looping) .proceed
        { node with graphManager := node.graphManager.cacheSnapshot node.graph }
        (.workerCompare looping (node.graphManager.snapshot node.graph))
  | workerUnchanged (looping : Bool) (topics : TopicNamesAndTypes) : node.graphManager.unchanged topics = true →
      Transition options node (.workerCompare looping topics) .proceed node (afterPass looping)
  | workerChanged (looping : Bool) (topics : TopicNamesAndTypes) : node.graphManager.unchanged topics = false →
      Transition options node (.workerCompare looping topics) .proceed node (.workerEnded looping topics)
  | workerEnding (looping : Bool) (topics : TopicNamesAndTypes) : node.roomSessionEnded = true →
      Transition options node (.workerEnded looping topics) .proceed { node with roomSessionEnded := false }
        (.workerStop looping topics)
  | workerNotEnded (looping : Bool) (topics : TopicNamesAndTypes) : node.roomSessionEnded = false →
      Transition options node (.workerEnded looping topics) .proceed node (.workerOperations looping topics)
  | workerStopped (looping : Bool) (topics : TopicNamesAndTypes) :
      Transition options node (.workerStop looping topics) .proceed node.stopRoomComponents.noteStopped
        (.workerOperations looping topics)
  | workerEnabled (looping : Bool) (topics : TopicNamesAndTypes) : node.roomOperationsEnabled = true →
      Transition options node (.workerOperations looping topics) .proceed node (.workerReconcile looping topics)
  | workerDisabled (looping : Bool) (topics : TopicNamesAndTypes) : node.roomOperationsEnabled = false →
      Transition options node (.workerOperations looping topics) .proceed node (afterPass looping)
  | workerReconciled (looping : Bool) (topics : TopicNamesAndTypes) (now : Int) (publisherCount : String → Nat) :
      node.roomComponentsStarted = true →
      Transition options node (.workerReconcile looping topics) (.observed now publisherCount)
        (node.reconcileComponents options now publisherCount topics).1.noteApplied (.workerRecord looping topics)
  | workerSkipped (looping : Bool) (topics : TopicNamesAndTypes) (now : Int) (publisherCount : String → Nat) :
      node.roomComponentsStarted = false →
      Transition options node (.workerReconcile looping topics) (.observed now publisherCount) node (afterPass looping)
  | workerRecorded (looping : Bool) (topics : TopicNamesAndTypes) :
      Transition options node (.workerRecord looping topics) .proceed
        { node with graphManager := node.graphManager.record topics } (afterPass looping)
  | workerReaped (now : Int) (publisherCount : String → Nat) :
      Transition options node .workerReap (.observed now publisherCount)
        ((node.reapInactiveSubscriptions options now publisherCount).noteReaped node.subscribedTopics) .workerWait

theorem advance_transition {options : Options} {node node' : Node} {before after : Control}
    {choice : Choice} (advanced : advance options node before choice = some (node', after)) :
    Transition options node before choice node' after := by
  -- Straight-line steps reduce to their constructor; the named cases below branch.
  cases before <;> cases choice <;> try cases advanced
  case idle.call call => cases call <;> cases advanced <;> constructor
  case tickEnded.proceed =>
    simp only [advance] at advanced
    split at advanced <;> cases advanced
    · exact .tickEnding ‹_›
    · exact .tickNotEnded (Bool.not_eq_true _ ▸ ‹_›)
  case tickConnected.proceed.refl =>
    split
    · exact .tickIsConnected ‹_›
    · exact .tickIsNotConnected (Bool.not_eq_true _ ▸ ‹_›)
  case tickEnsure.ensured outcome =>
    simp only [advance] at advanced
    split at advanced <;> cases advanced
    · exact .tickEnsured outcome _ ‹_›
    · exact .tickNotEnsured outcome ‹_›
  case tickJoined.proceed.refl =>
    split
    · exact .tickHasJoined ‹_›
    · exact .tickHasNotJoined (Bool.not_eq_true _ ▸ ‹_›)
  case publishedWait.proceed session sid =>
    simp only [advance] at advanced
    split at advanced
    · cases advanced
      split
      · exact .publishedReleased session sid ‹_› ‹_›
      · exact .publishedDropped session sid ‹_› (Bool.not_eq_true _ ▸ ‹_›)
    · cases advanced
  case workerWait.proceed =>
    simp only [advance] at advanced
    split at advanced <;> cases advanced
    · exact .workerWoken ‹_›
    · exact .workerWaited (Bool.not_eq_true _ ▸ ‹_›)
  case workerCompare.proceed.refl looping topics =>
    split
    · exact .workerUnchanged looping topics ‹_›
    · exact .workerChanged looping topics (Bool.not_eq_true _ ▸ ‹_›)
  case workerEnded.proceed looping topics =>
    simp only [advance] at advanced
    split at advanced <;> cases advanced
    · exact .workerEnding looping topics ‹_›
    · exact .workerNotEnded looping topics (Bool.not_eq_true _ ▸ ‹_›)
  case workerOperations.proceed.refl looping topics =>
    split
    · exact .workerEnabled looping topics ‹_›
    · exact .workerDisabled looping topics (Bool.not_eq_true _ ▸ ‹_›)
  case workerReconcile.observed looping topics now publisherCount =>
    by_cases started : node.roomComponentsStarted = true
    · have applies : node.reconcileComponents options now publisherCount topics =
          ((node.reconcileComponents options now publisherCount topics).1, true) := by
        simp [Node.reconcileComponents, started]
      rw [advance, applies] at advanced
      cases advanced
      exact .workerReconciled looping topics now publisherCount started
    · have skips : node.reconcileComponents options now publisherCount topics = (node, false) := by
        simp [Node.reconcileComponents, started]
      rw [advance, skips] at advanced
      cases advanced
      exact .workerSkipped looping topics now publisherCount (Bool.not_eq_true _ ▸ started)
  all_goals constructor

theorem step_transition {options : Options} {config next : Config} {label : Nat × Choice}
    (stepped : (program options).machine.step? config label = some next) :
    ∃ before after, (program options).StepOf config label.1 label.2 next before after ∧
      Transition options config.shared before label.2 next.shared after := by
  obtain ⟨before, after, step⟩ := Program.stepOf stepped
  exact ⟨before, after, step, advance_transition step.advanced⟩

def Control.worker : Control → Bool
  | .workerWait | .workerSettle | .workerInvalidate | .workerTopics _ | .workerCompare _ _ | .workerEnded _ _
  | .workerStop _ _ | .workerOperations _ _ | .workerReconcile _ _ | .workerRecord _ _ | .workerReap => true
  | _ => false

theorem afterPass_worker (looping : Bool) : (afterPass looping).worker = true := by
  cases looping <;> rfl

theorem Transition.worker {options : Options} {node node' : Node} {before after : Control}
    {choice : Choice} (transition : Transition options node before choice node' after) :
    after.worker = before.worker := by
  cases transition <;> first | rfl | exact afterPass_worker _

/-- Thread 0 is the worker, and no other thread is. -/
def SingleWorker (config : Config) : Prop :=
  ∀ (thread : Nat) (control : Control), config.threads[thread]? = some control →
    control.worker = decide (thread = 0)

theorem singleWorker_initial (graph : TopicNamesAndTypes) (threads : Nat) :
    SingleWorker (initial graph threads) := by
  intro thread control found
  cases thread with
  | zero =>
      cases found
      rfl
  | succ thread =>
      have idle := List.eq_of_mem_replicate (List.mem_of_getElem? (List.getElem?_cons_succ ▸ found))
      simp [idle, Control.worker]

theorem singleWorker_of_run {options : Options} {permitted : Config → Nat × Choice → Prop}
    {graph : TopicNamesAndTypes} {threads : Nat} {config : Config}
    (run : (program options).machine.Run permitted (initial graph threads) config) :
    SingleWorker config := by
  refine run.invariant (singleWorker_initial graph threads) ?_
  intro config next label single _ stepped thread control found
  obtain ⟨before, after, step, transition⟩ := step_transition stepped
  rcases step.thread_cases found with ⟨rfl, rfl⟩ | ⟨_, earlier⟩
  · exact transition.worker.trans (single _ _ step.running)
  · exact single thread control earlier

end RosPortal.Portal
