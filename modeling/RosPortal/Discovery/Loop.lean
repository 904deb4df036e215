import RosPortal.Interleaving.Machine

/-! The discovery worker of the graph manager over any graph and any callbacks. The worker
runs its loop one step at a time while the graph changes, with or without a graph event,
and other threads read the snapshots. -/

set_option autoImplicit false

namespace RosPortal.Discovery

open Interleaving

/-- The graph queries and the callbacks of the graph manager, over a world that holds the
graph and whatever the callbacks keep. -/
structure Callbacks (World Change Topics Services : Type) where
  getTopicNamesAndTypes : World → Topics
  getServiceNamesAndTypes : World → Services
  reconcileTopics : World → Topics → World × Bool
  reapExpiredSubscriptions : World → World
  change : World → Change → World

/-- The members of `GraphManager` that the loop reads, with the flag of its event. -/
structure GraphManager (Topics Services : Type) where
  topics : Option Topics := none
  services : Option Services := none
  lastReconciledTopics : Option Topics := none
  event : Bool := false
deriving DecidableEq

/-- The next step of the worker. The first pass, before the loop, does not reap. -/
inductive Control (Topics : Type) where
  | topics (looping : Bool)
  | compare (looping : Bool) (topics : Topics)
  | reconcile (looping : Bool) (topics : Topics)
  | record (looping : Bool) (topics : Topics)
  | wait
  | settle
  | invalidate
  | reap
deriving DecidableEq

/-- The graphs that the topics and the services have had since the last wake-up, newest
first, and whether a change of the graph has gone without an event. -/
structure History (Topics Services : Type) where
  wakeups : Nat := 0
  topics : List Topics := []
  services : List Services := []
  missed : Bool := false
deriving DecidableEq

structure State (World Topics Services : Type) where
  world : World
  manager : GraphManager Topics Services := {}
  worker : Control Topics := .topics false
  history : History Topics Services := {}
deriving DecidableEq

/-- A step of the worker, a change of the graph that sets the event or fails to, an event
without a change, or a call of `topics()` or `services()` by another thread. -/
inductive Label (Change : Type) where
  | work
  | changed (change : Change) (notified : Bool)
  | graphEvent
  | readTopics
  | readServices
deriving DecidableEq

section Machine

variable {World Change Topics Services : Type}

namespace GraphManager

def invalidate (manager : GraphManager Topics Services) : GraphManager Topics Services :=
  { manager with topics := none, services := none }

/-- What `topics()` returns, which is then cached. -/
def topicSnapshot (manager : GraphManager Topics Services) (graph : Topics) : Topics :=
  manager.topics.getD graph

def serviceSnapshot (manager : GraphManager Topics Services) (graph : Services) : Services :=
  manager.services.getD graph

def readTopics (manager : GraphManager Topics Services) (graph : Topics) : GraphManager Topics Services :=
  { manager with topics := some (manager.topicSnapshot graph) }

def readServices (manager : GraphManager Topics Services) (graph : Services) :
    GraphManager Topics Services :=
  { manager with services := some (manager.serviceSnapshot graph) }

def setEvent (manager : GraphManager Topics Services) (event : Bool) : GraphManager Topics Services :=
  { manager with event }

end GraphManager

def afterPass (looping : Bool) : Control Topics := if looping then .reap else .wait

variable [DecidableEq Topics] [DecidableEq Services]

namespace State

variable (callbacks : Callbacks World Change Topics Services)

def enter (state : State World Topics Services) (world : World) : State World Topics Services :=
  { state with
    world
    history := { state.history with
      topics := callbacks.getTopicNamesAndTypes world :: state.history.topics
      services := callbacks.getServiceNamesAndTypes world :: state.history.services
      missed := state.history.missed ||
        !(callbacks.getTopicNamesAndTypes world = callbacks.getTopicNamesAndTypes state.world &&
          callbacks.getServiceNamesAndTypes world = callbacks.getServiceNamesAndTypes state.world) } }

/-- The graph event is set, and nothing that has changed so far is missed. -/
def notify (state : State World Topics Services) : State World Topics Services :=
  { state with
    manager := state.manager.setEvent true
    history := { state.history with missed := false } }

def wake (state : State World Topics Services) : State World Topics Services :=
  { state with history := { state.history with
    wakeups := state.history.wakeups + 1
    topics := [callbacks.getTopicNamesAndTypes state.world]
    services := [callbacks.getServiceNamesAndTypes state.world] } }

/-- One step of `discoveryLoop`, with the steps of `reconcileIfChanged`. -/
def work (state : State World Topics Services) : State World Topics Services :=
  match state.worker with
  | .topics looping =>
      let graph := callbacks.getTopicNamesAndTypes state.world
      { state with
        manager := state.manager.readTopics graph
        worker := .compare looping (state.manager.topicSnapshot graph) }
  | .compare looping topics =>
      { state with
        worker :=
          if state.manager.lastReconciledTopics = some topics then afterPass looping
          else .reconcile looping topics }
  | .reconcile looping topics =>
      let (world, applied) := callbacks.reconcileTopics state.world topics
      { state.enter callbacks world with
        worker := if applied then .record looping topics else afterPass looping }
  | .record looping topics =>
      { state with
        manager := { state.manager with lastReconciledTopics := some topics }
        worker := afterPass looping }
  | .wait =>
      if state.manager.event then
        { state.wake callbacks with manager := state.manager.setEvent false, worker := .settle }
      else { state.wake callbacks with worker := .reap }
  -- the second `check_and_clear` follows the debounce
  | .settle => { state with manager := state.manager.setEvent false, worker := .invalidate }
  | .invalidate =>
      { state with
        manager := state.manager.invalidate
        worker := .topics true
        history := { state.history with missed := false } }
  | .reap =>
      { state.enter callbacks (callbacks.reapExpiredSubscriptions state.world) with worker := .wait }

def step (state : State World Topics Services) : Label Change → State World Topics Services
  | .work => state.work callbacks
  | .changed change notified =>
      let changed := state.enter callbacks (callbacks.change state.world change)
      if notified then changed.notify else changed
  | .graphEvent => state.notify
  | .readTopics =>
      { state with manager := state.manager.readTopics (callbacks.getTopicNamesAndTypes state.world) }
  | .readServices =>
      { state with manager := state.manager.readServices (callbacks.getServiceNamesAndTypes state.world) }

end State

/-- The machine of the worker and its surroundings; every step is always enabled. -/
def machine (callbacks : Callbacks World Change Topics Services) :
    Machine (State World Topics Services) (Label Change) where
  step? state label := some (state.step callbacks label)

end Machine

end RosPortal.Discovery
