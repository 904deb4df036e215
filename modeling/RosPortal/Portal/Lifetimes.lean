import RosPortal.Interleaving.Machine

/-! The lifetimes of the room-bound forwarders against the callbacks that capture
them. Callbacks begin and end on executor threads, readers and the push worker have
threads of their own, and the components are stopped by the connection timer or the
discovery worker, step by step, under `room_components_mutex_`. -/

set_option autoImplicit false

namespace RosPortal.Portal.Lifetimes

open Interleaving

/-- One forwarder object; a forwarder that is created again is another object. -/
inductive Forwarder where
  | topic (id : Nat)
  | latched (id : Nat)
deriving DecidableEq, Repr

/-- What runs on behalf of a forwarder and captures it. -/
inductive Activity where
  | dataSubscription (topicName : String)
  | imageSubscription (topicName : String)
  | compressedImageSubscription (topicName : String)
  | videoDemandTimer
  | outboundSubscription (topicName : String)
  | dataTrackReader (sid : String)
  | videoTrackReader (sid : String)
  | pushWorker
deriving DecidableEq, Repr

/-- The mutexes that both a callback and a destructor take. -/
inductive Mutex where
  | outboundTopics
  | inboundVideoTracks
  | state
deriving DecidableEq, Repr

namespace Activity

/-- The ROS subscription and timer callbacks, which the executor runs. -/
def callback : Activity → Bool
  | .dataSubscription _ | .imageSubscription _ | .compressedImageSubscription _ | .videoDemandTimer
  | .outboundSubscription _ => true
  | .dataTrackReader _ | .videoTrackReader _ | .pushWorker => false

/-- The callbacks that graph reconciliation subscribes. -/
def subscription (activity : Activity) : Bool := activity.callback && activity ≠ .videoDemandTimer

def mutex : Activity → Option Mutex
  | .dataSubscription _ | .imageSubscription _ | .compressedImageSubscription _ => some .outboundTopics
  | .videoDemandTimer => some .inboundVideoTracks
  | .outboundSubscription _ | .pushWorker => some .state
  | .dataTrackReader _ | .videoTrackReader _ => none

def belongs (activity : Activity) : Forwarder → Bool
  | .topic _ =>
      match activity with
      | .outboundSubscription _ | .pushWorker => false
      | _ => true
  | .latched _ =>
      match activity with
      | .outboundSubscription _ | .pushWorker => true
      | _ => false

end Activity

/-- An activity between its begin and its end, and whether it holds its mutex. -/
structure Running where
  forwarder : Forwarder
  activity : Activity
  holding : Bool := false
deriving DecidableEq, Repr

/-- The next step of `stopRoomComponents`: of `~LatchedTopicForwarder`, then of
`~TopicForwarder`, then what follows both. -/
inductive Phase where
  | latchedStop (id : Nat)
  | latchedJoin (id : Nat)
  | latchedDrop (id : Nat)
  | latchedComplete (id : Nat)
  | topicReset
  | topicCancel (id : Nat)
  | topicDataTracks (id : Nat)
  | topicVideoTracks (id : Nat)
  | topicDrop (id : Nat)
  | topicComplete (id : Nat)
  | finish
deriving DecidableEq, Repr

/-- What the configuration fixes. -/
structure Options where
  incomingVideoTopics : Bool := true
  latchedTopics : Bool := true
  latchedOutboundTopics : Bool := true
deriving DecidableEq, Repr

/-- The node as far as lifetimes go. `phase` is the place of the thread that holds
`room_components_mutex_` to stop the components, `stopsPending` counts the threads
that are about to lock it for that, and `handles` are the subscriptions and timers
from which the executor may begin a callback. `destroyed` is never read by a step. -/
structure State where
  roomSessionEnded : Bool := false
  stopsPending : Nat := 0
  roomComponentsStarted : Bool := false
  topicForwarder : Option Nat := none
  latchedTopicForwarder : Option Nat := none
  created : Nat := 0
  handles : List (Forwarder × Activity) := []
  running : List Running := []
  phase : Option Phase := none
  destroyed : List Forwarder := []
deriving DecidableEq, Repr

inductive Label where
  | roomEos
  | exchangeEnded
  | lockStop
  | failStart
  | ensureTopicForwarder
  | start
  | subscribe (activity : Activity)
  | startReader (activity : Activity)
  | begin (forwarder : Forwarder) (activity : Activity)
  | lock (running : Running)
  | unlock (running : Running)
  | «end» (running : Running)
  | stop
deriving DecidableEq, Repr

namespace State

def holds (state : State) (forwarder : Forwarder) (mutex : Mutex) : Bool :=
  state.running.any fun running =>
    running.forwarder = forwarder && running.holding && running.activity.mutex = some mutex

/-- An activity of the forwarder of this kind is between its begin and its end. -/
def runs (state : State) (forwarder : Forwarder) (kind : Activity → Bool) : Bool :=
  state.running.any fun running => running.forwarder = forwarder && kind running.activity

def dropHandles (state : State) (forwarder : Forwarder) (kind : Activity → Bool) : State :=
  { state with handles := state.handles.filter fun handle => !(handle.1 = forwarder && kind handle.2) }

def destroy (state : State) (forwarder : Forwarder) : State :=
  { state with destroyed := forwarder :: state.destroyed }

/-- `latched_topic_forwarder_.reset()`, which `stopRoomComponents` comes to first. -/
def enterStop (state : State) : State :=
  match state.latchedTopicForwarder with
  | some id => { state with latchedTopicForwarder := none, phase := some (.latchedStop id) }
  | none => { state with phase := some .topicReset }

/-- `initializeTopicForwarder`, with the demand timer of the constructor. -/
def createTopicForwarder (options : Options) (state : State) : State :=
  let forwarder := Forwarder.topic state.created
  { state with
    topicForwarder := some state.created
    created := state.created + 1
    handles :=
      if options.incomingVideoTopics then (forwarder, .videoDemandTimer) :: state.handles
      else state.handles }

def ensureTopicForwarder (options : Options) (state : State) : State :=
  if state.topicForwarder.isSome then state else state.createTopicForwarder options

/-- `initializeLatchedTopicForwarder`, with the worker that `start` runs. -/
def createLatchedForwarder (options : Options) (state : State) : State :=
  if options.latchedTopics then
    let forwarder := Forwarder.latched state.created
    { state with
      latchedTopicForwarder := some state.created
      created := state.created + 1
      running :=
        if options.latchedOutboundTopics then ⟨forwarder, .pushWorker, false⟩ :: state.running
        else state.running }
  else state

/-- The forwarder that the activity would belong to now. -/
def owner (state : State) : Activity → Option Forwarder
  | .outboundSubscription _ | .pushWorker => state.latchedTopicForwarder.map .latched
  | _ => state.topicForwarder.map .topic

def dataReader : Activity → Bool
  | .dataTrackReader _ => true
  | _ => false

def videoReader : Activity → Bool
  | .videoTrackReader _ => true
  | _ => false

/-- One step of `stopRoomComponents`; `none` while it waits for a mutex or a thread. -/
def stopStep (state : State) : Phase → Option State
  | .latchedStop id =>
      if state.holds (.latched id) .state then none
      else some { state with phase := some (.latchedJoin id) }
  | .latchedJoin id =>
      if state.runs (.latched id) (· = .pushWorker) then none
      else some { state with phase := some (.latchedDrop id) }
  | .latchedDrop id =>
      some { state.dropHandles (.latched id) (fun _ => true) with phase := some (.latchedComplete id) }
  | .latchedComplete id => some { state.destroy (.latched id) with phase := some .topicReset }
  | .topicReset =>
      match state.topicForwarder with
      | some id => some { state with topicForwarder := none, phase := some (.topicCancel id) }
      | none => some { state with phase := some .finish }
  | .topicCancel id =>
      some { state.dropHandles (.topic id) (· = .videoDemandTimer) with
        phase := some (.topicDataTracks id) }
  | .topicDataTracks id =>
      if state.runs (.topic id) dataReader then none
      else some { state with phase := some (.topicVideoTracks id) }
  | .topicVideoTracks id =>
      if state.holds (.topic id) .inboundVideoTracks || state.runs (.topic id) videoReader then none
      else some { state with phase := some (.topicDrop id) }
  | .topicDrop id =>
      if state.holds (.topic id) .outboundTopics then none
      else
        some { state.dropHandles (.topic id) (fun _ => true) with phase := some (.topicComplete id) }
  | .topicComplete id => some { state.destroy (.topic id) with phase := some .finish }
  | .finish => some { state with roomComponentsStarted := false, phase := none }

end State

def step? (options : Options) (state : State) : Label → Option State
  | .roomEos => some { state with roomSessionEnded := true }
  -- processEndedRoomSession of the timer or the worker
  | .exchangeEnded =>
      if state.roomSessionEnded then
        some { state with roomSessionEnded := false, stopsPending := state.stopsPending + 1 }
      else some state
  | .lockStop =>
      if state.phase = none ∧ 0 < state.stopsPending then
        some { state.enterStop with stopsPending := state.stopsPending - 1 }
      else none
  -- startRoomComponents; a start that fails stops the components
  | .failStart =>
      if state.phase = none ∧ state.roomComponentsStarted = false then some state.enterStop else none
  | .ensureTopicForwarder =>
      if state.phase = none then some (state.ensureTopicForwarder options) else none
  | .start =>
      if state.phase = none ∧ state.roomComponentsStarted = false then
        some { (state.ensureTopicForwarder options).createLatchedForwarder options with
          roomComponentsStarted := true }
      else none
  -- reconcileTopics and track announcements, under the same mutex
  | .subscribe activity =>
      if state.phase = none ∧ state.roomComponentsStarted = true ∧ activity.subscription then
        (state.owner activity).map fun forwarder =>
          { state with handles := (forwarder, activity) :: state.handles }
      else none
  | .startReader activity =>
      if state.phase = none ∧ (State.dataReader activity || State.videoReader activity) then
        (state.owner activity).map fun forwarder =>
          { state with running := ⟨forwarder, activity, false⟩ :: state.running }
      else none
  -- the executor and the threads of the forwarders
  | .begin forwarder activity =>
      if (forwarder, activity) ∈ state.handles then
        some { state with running := ⟨forwarder, activity, false⟩ :: state.running }
      else none
  | .lock running =>
      if running ∈ state.running ∧ running.holding = false ∧
          ∀ mutex ∈ running.activity.mutex, state.holds running.forwarder mutex = false then
        some { state with running := { running with holding := true } :: state.running.erase running }
      else none
  | .unlock running =>
      if running ∈ state.running ∧ running.holding = true then
        some { state with running := { running with holding := false } :: state.running.erase running }
      else none
  | .end running =>
      if running ∈ state.running ∧ running.holding = false then
        some { state with running := state.running.erase running }
      else none
  | .stop => state.phase.bind state.stopStep

def machine (options : Options) : Machine State Label where
  step? := step? options

def NoneDangling (state : State) : Prop :=
  ∀ running ∈ state.running, running.forwarder ∉ state.destroyed

/-- The forwarder whose subscription handles the destructor drops next. -/
def Phase.drops : Phase → Option Forwarder
  | .latchedDrop id => some (.latched id)
  | .topicDrop id => some (.topic id)
  | _ => none

/-- When a destructor drops its subscription handles, none of the forwarder's callbacks
is between its begin and its end. -/
def DropGuarded (state : State) (label : Label) : Prop :=
  label = .stop → ∀ phase ∈ state.phase, ∀ forwarder ∈ phase.drops,
    state.runs forwarder Activity.callback = false

instance (state : State) (label : Label) : Decidable (DropGuarded state label) := by
  unfold DropGuarded
  infer_instance

def Phase.target : Phase → Option Forwarder
  | .latchedStop id | .latchedJoin id | .latchedDrop id | .latchedComplete id => some (.latched id)
  | .topicCancel id | .topicDataTracks id | .topicVideoTracks id | .topicDrop id
  | .topicComplete id => some (.topic id)
  | .topicReset | .finish => none

def Phase.dropped : Phase → Bool
  | .latchedComplete _ | .topicComplete _ => true
  | _ => false

/-- The destructor has waited until no such activity of its forwarder runs. -/
def Phase.waitedFor : Phase → Activity → Bool
  | .latchedDrop _, .pushWorker => true
  | .topicVideoTracks _, .dataTrackReader _ => true
  | .topicDrop _, .dataTrackReader _ | .topicDrop _, .videoTrackReader _ => true
  | .latchedComplete _, _ | .topicComplete _, _ => true
  | _, _ => false

/-- An activity of the forwarder is between its begin and its end. -/
def State.Active (state : State) (forwarder : Forwarder) (activity : Activity) : Prop :=
  ∃ holding, ⟨forwarder, activity, holding⟩ ∈ state.running

def Forwarder.id : Forwarder → Nat
  | .topic id | .latched id => id

def State.Holds (state : State) : Forwarder → Prop
  | .topic id => state.topicForwarder = some id
  | .latched id => state.latchedTopicForwarder = some id

/-- What keeps activities away from destroyed forwarders. A destructor passes the point
after which an activity cannot run only when none of its kind is left. -/
structure LifetimeInvariant (state : State) : Prop where
  handles : ∀ forwarder activity, (forwarder, activity) ∈ state.handles →
    activity.callback = true ∧ activity.belongs forwarder = true ∧ forwarder ∉ state.destroyed ∧
      ∀ phase ∈ state.phase, phase.target = some forwarder → phase.dropped = false
  active : ∀ forwarder activity, state.Active forwarder activity →
    activity.belongs forwarder = true ∧ forwarder ∉ state.destroyed ∧
      ∀ phase ∈ state.phase, phase.target = some forwarder → phase.waitedFor activity = false
  held : ∀ forwarder, state.Holds forwarder → forwarder ∉ state.destroyed ∧
    forwarder.id < state.created ∧ ∀ phase ∈ state.phase, phase.target ≠ some forwarder
  targets : ∀ phase ∈ state.phase, ∀ forwarder ∈ phase.target, forwarder.id < state.created
  destroyed : ∀ forwarder ∈ state.destroyed, forwarder.id < state.created

/-- A callback is waited for only when the handles have been dropped. -/
theorem Phase.waitedFor_callback {phase : Phase} {activity : Activity}
    (callback : activity.callback = true) (pending : phase.dropped = false) :
    phase.waitedFor activity = false := by
  cases phase with
  | latchedComplete _ | topicComplete _ => cases pending
  | latchedDrop _ | topicVideoTracks _ | topicDrop _ =>
      cases activity <;> first | rfl | cases callback
  | _ => rfl

theorem lifetimeInvariant_initial : LifetimeInvariant {} := by
  refine ⟨?_, ?_, ?_, ?_, ?_⟩
  · intro forwarder activity member
    cases member
  · intro forwarder activity active
    obtain ⟨holding, member⟩ := active
    cases member
  · intro forwarder holds
    cases forwarder <;> cases holds
  · intro phase found
    cases found
  · intro forwarder member
    cases member

theorem State.runs_false {state : State} {forwarder : Forwarder} {kind : Activity → Bool}
    (quiet : state.runs forwarder kind = false) {activity : Activity}
    (active : state.Active forwarder activity) : kind activity = false := by
  obtain ⟨holding, member⟩ := active
  simpa [runs] using List.any_eq_false.mp quiet _ member

theorem State.mem_dropHandles {state : State} {dropped : Forwarder} {kind : Activity → Bool}
    {forwarder : Forwarder} {activity : Activity} :
    (forwarder, activity) ∈ (state.dropHandles dropped kind).handles ↔
      (forwarder, activity) ∈ state.handles ∧ ¬ (forwarder = dropped ∧ kind activity = true) := by
  simp only [dropHandles, List.mem_filter, Bool.not_eq_true', Bool.and_eq_false_iff, not_and]
  grind

section Steps

variable {state : State}

/-- Steps that only begin, change or end activities keep the invariant if each
activity after the step was there before or is a callback with a handle. -/
theorem LifetimeInvariant.activities (inv : LifetimeInvariant state) {running : List Running}
    (origin : ∀ forwarder activity, { state with running }.Active forwarder activity →
      state.Active forwarder activity ∨ (forwarder, activity) ∈ state.handles) :
    LifetimeInvariant { state with running } := by
  refine ⟨inv.handles, ?_, inv.held, inv.targets, inv.destroyed⟩
  intro forwarder activity active
  rcases origin forwarder activity active with earlier | handle
  · exact inv.active forwarder activity earlier
  · obtain ⟨callback, belongs, alive, notDropped⟩ := inv.handles forwarder activity handle
    refine ⟨belongs, alive, ?_⟩
    intro phase found target
    exact Phase.waitedFor_callback callback (notDropped phase found target)

/-- A further step of the same destructor, or the end of one. -/
theorem LifetimeInvariant.advance (inv : LifetimeInvariant state) {phase : Phase}
    (same : ∀ forwarder, phase.target = some forwarder →
      ∃ earlier, state.phase = some earlier ∧ earlier.target = some forwarder)
    (handles : ∀ forwarder activity, (forwarder, activity) ∈ state.handles →
      phase.target = some forwarder → phase.dropped = false)
    (active : ∀ forwarder activity, state.Active forwarder activity →
      phase.target = some forwarder → phase.waitedFor activity = false) :
    LifetimeInvariant { state with phase := some phase } := by
  refine ⟨?_, ?_, ?_, ?_, inv.destroyed⟩
  · intro forwarder activity member
    obtain ⟨callback, belongs, alive, _⟩ := inv.handles forwarder activity member
    refine ⟨callback, belongs, alive, ?_⟩
    intro _ same target
    cases same
    exact handles forwarder activity member target
  · intro forwarder activity running
    obtain ⟨belongs, alive, _⟩ := inv.active forwarder activity running
    refine ⟨belongs, alive, ?_⟩
    intro _ same target
    cases same
    exact active forwarder activity running target
  · intro forwarder holds
    obtain ⟨alive, known, notTarget⟩ := inv.held forwarder holds
    refine ⟨alive, known, ?_⟩
    intro _ same target
    cases same
    obtain ⟨earlier, found, targeted⟩ := same forwarder target
    exact notTarget earlier found targeted
  · intro _ same forwarder target
    cases same
    obtain ⟨earlier, found, targeted⟩ := same forwarder target
    exact inv.targets earlier found forwarder targeted

theorem LifetimeInvariant.reset (inv : LifetimeInvariant state) {next : State} {phase : Phase}
    {forwarder : Forwarder} (holds : state.Holds forwarder)
    (frame : next.handles = state.handles ∧ next.running = state.running ∧
      next.destroyed = state.destroyed ∧ next.created = state.created)
    (entered : next.phase = some phase) (target : phase.target = some forwarder)
    (start : phase.dropped = false ∧ ∀ activity, phase.waitedFor activity = false)
    (released : ∀ other, next.Holds other → state.Holds other ∧ other ≠ forwarder) :
    LifetimeInvariant next := by
  obtain ⟨sameHandles, sameRunning, sameDestroyed, sameCreated⟩ := frame
  refine ⟨?_, ?_, ?_, ?_, ?_⟩
  · intro other activity member
    rw [sameHandles] at member
    obtain ⟨callback, belongs, alive, _⟩ := inv.handles other activity member
    rw [entered, sameDestroyed]
    refine ⟨callback, belongs, alive, ?_⟩
    intro _ same _
    cases same
    exact start.1
  · intro other activity active
    obtain ⟨holding, member⟩ := active
    rw [sameRunning] at member
    obtain ⟨belongs, alive, _⟩ := inv.active other activity ⟨holding, member⟩
    rw [entered, sameDestroyed]
    refine ⟨belongs, alive, ?_⟩
    intro _ same _
    cases same
    exact start.2 activity
  · intro other held
    obtain ⟨heldBefore, different⟩ := released other held
    obtain ⟨alive, known, _⟩ := inv.held other heldBefore
    rw [entered, sameDestroyed, sameCreated]
    refine ⟨alive, known, ?_⟩
    intro _ same targeted
    cases same
    exact different (Option.some.inj (targeted.symm.trans target))
  · rw [entered, sameCreated]
    intro _ same other targeted
    cases same
    cases target.symm.trans targeted
    exact (inv.held forwarder holds).2.1
  · rw [sameDestroyed, sameCreated]
    exact inv.destroyed

theorem LifetimeInvariant.enterStop (inv : LifetimeInvariant state) :
    LifetimeInvariant state.enterStop := by
  unfold State.enterStop
  split
  · rename_i id held
    refine inv.reset (show state.Holds (.latched id) from held) ⟨rfl, rfl, rfl, rfl⟩ rfl rfl ⟨rfl, fun _ => rfl⟩ ?_
    intro other holds
    cases other with
    | latched other => cases holds
    | topic other => exact ⟨holds, (nomatch ·)⟩
  · exact inv.advance (fun _ => (nomatch ·)) (fun _ _ _ => (nomatch ·)) (fun _ _ _ => (nomatch ·))

/-- Room components are created and given activities only while nothing is being stopped. -/
theorem LifetimeInvariant.createTopicForwarder (inv : LifetimeInvariant state) (options : Options)
    (free : state.phase = none) : LifetimeInvariant (state.createTopicForwarder options) := by
  have fresh : Forwarder.topic state.created ∉ state.destroyed := fun member =>
    absurd (inv.destroyed _ member) (Nat.lt_irrefl _)
  refine ⟨?_, ?_, ?_, ?_, ?_⟩
  · intro forwarder activity member
    have origin : (forwarder = .topic state.created ∧ activity = .videoDemandTimer) ∨
        (forwarder, activity) ∈ state.handles := by
      simp only [State.createTopicForwarder] at member
      split at member
      · rcases List.mem_cons.mp member with same | earlier
        · cases same
          exact .inl ⟨rfl, rfl⟩
        · exact .inr earlier
      · exact .inr member
    rcases origin with ⟨rfl, rfl⟩ | earlier
    · refine ⟨rfl, rfl, fresh, ?_⟩
      intro phase found
      cases free.symm.trans found
    · exact inv.handles forwarder activity earlier
  · exact inv.active
  · intro forwarder holds
    cases forwarder with
    | topic id =>
        cases holds
        refine ⟨fresh, Nat.lt_succ_self _, ?_⟩
        intro phase found
        cases free.symm.trans found
    | latched id =>
        obtain ⟨alive, known, notTarget⟩ := inv.held (.latched id) holds
        exact ⟨alive, Nat.lt_succ_of_lt known, notTarget⟩
  · intro phase found
    cases free.symm.trans found
  · intro forwarder member
    exact Nat.lt_succ_of_lt (inv.destroyed forwarder member)

theorem LifetimeInvariant.ensureTopicForwarder (inv : LifetimeInvariant state) (options : Options)
    (free : state.phase = none) : LifetimeInvariant (state.ensureTopicForwarder options) := by
  unfold State.ensureTopicForwarder
  split
  · exact inv
  · exact inv.createTopicForwarder options free

theorem LifetimeInvariant.createLatchedForwarder (inv : LifetimeInvariant state) (options : Options)
    (free : state.phase = none) : LifetimeInvariant (state.createLatchedForwarder options) := by
  unfold State.createLatchedForwarder
  split
  · have fresh : Forwarder.latched state.created ∉ state.destroyed := fun member =>
      absurd (inv.destroyed _ member) (Nat.lt_irrefl _)
    refine ⟨inv.handles, ?_, ?_, ?_, ?_⟩
    · intro forwarder activity active
      obtain ⟨holding, member⟩ := active
      have origin : (forwarder = .latched state.created ∧ activity = .pushWorker) ∨
          ⟨forwarder, activity, holding⟩ ∈ state.running := by
        dsimp only at member
        split at member
        · rcases List.mem_cons.mp member with same | earlier
          · cases same
            exact .inl ⟨rfl, rfl⟩
          · exact .inr earlier
        · exact .inr member
      rcases origin with ⟨rfl, rfl⟩ | earlier
      · refine ⟨rfl, fresh, ?_⟩
        intro phase found
        cases free.symm.trans found
      · exact inv.active forwarder activity ⟨holding, earlier⟩
    · intro forwarder holds
      cases forwarder with
      | latched id =>
          cases holds
          refine ⟨fresh, Nat.lt_succ_self _, ?_⟩
          intro phase found
          cases free.symm.trans found
      | topic id =>
          obtain ⟨alive, known, notTarget⟩ := inv.held (.topic id) holds
          exact ⟨alive, Nat.lt_succ_of_lt known, notTarget⟩
    · intro phase found
      cases free.symm.trans found
    · intro forwarder member
      exact Nat.lt_succ_of_lt (inv.destroyed forwarder member)
  · exact inv

theorem State.owner_holds {activity : Activity} {forwarder : Forwarder}
    (owned : state.owner activity = some forwarder) :
    state.Holds forwarder ∧ activity.belongs forwarder = true := by
  cases activity <;> obtain ⟨id, held, rfl⟩ := Option.map_eq_some_iff.mp owned <;> exact ⟨held, rfl⟩

theorem LifetimeInvariant.subscribe (inv : LifetimeInvariant state) {activity : Activity}
    {forwarder : Forwarder} (owned : state.owner activity = some forwarder)
    (callback : activity.callback = true) (free : state.phase = none) :
    LifetimeInvariant { state with handles := (forwarder, activity) :: state.handles } := by
  refine ⟨?_, inv.active, inv.held, inv.targets, inv.destroyed⟩
  intro other kind member
  rcases List.mem_cons.mp member with same | earlier
  · cases same
    obtain ⟨holds, belongs⟩ := State.owner_holds owned
    refine ⟨callback, belongs, (inv.held _ holds).1, ?_⟩
    intro phase found
    cases free.symm.trans found
  · exact inv.handles other kind earlier

theorem LifetimeInvariant.startReader (inv : LifetimeInvariant state) {activity : Activity}
    {forwarder : Forwarder} (owned : state.owner activity = some forwarder)
    (free : state.phase = none) :
    LifetimeInvariant { state with running := ⟨forwarder, activity, false⟩ :: state.running } := by
  refine ⟨inv.handles, ?_, inv.held, inv.targets, inv.destroyed⟩
  intro other kind active
  obtain ⟨holding, member⟩ := active
  rcases List.mem_cons.mp member with same | earlier
  · cases same
    obtain ⟨holds, belongs⟩ := State.owner_holds owned
    refine ⟨belongs, (inv.held _ holds).1, ?_⟩
    intro phase found
    cases free.symm.trans found
  · exact inv.active other kind ⟨holding, earlier⟩

theorem LifetimeInvariant.dropHandles (inv : LifetimeInvariant state) (dropped : Forwarder)
    (kind : Activity → Bool) : LifetimeInvariant (state.dropHandles dropped kind) :=
  ⟨fun forwarder activity member => inv.handles forwarder activity (State.mem_dropHandles.mp member).1,
    inv.active, inv.held, inv.targets, inv.destroyed⟩

/-- The destruction of the forwarder completes once nothing of it runs and nothing can begin. -/
theorem LifetimeInvariant.destroy (inv : LifetimeInvariant state) {phase after : Phase}
    {forwarder : Forwarder} (found : state.phase = some phase) (target : phase.target = some forwarder)
    (dropped : phase.dropped = true) (cleared : after.target = none) :
    LifetimeInvariant { state.destroy forwarder with phase := some after } := by
  have finished : ∀ activity, phase.waitedFor activity = true := by
    cases phase <;> simp_all [Phase.dropped, Phase.waitedFor]
  refine ⟨?_, ?_, ?_, ?_, ?_⟩
  · intro other activity member
    obtain ⟨callback, belongs, alive, pending⟩ := inv.handles other activity member
    refine ⟨callback, belongs, ?_, ?_⟩
    · rintro (_ | ⟨_, earlier⟩)
      · simp [pending phase found target] at dropped
      · exact alive earlier
    · intro _ same targeted
      cases same
      cases cleared.symm.trans targeted
  · intro other activity running
    obtain ⟨belongs, alive, pending⟩ := inv.active other activity running
    refine ⟨belongs, ?_, ?_⟩
    · rintro (_ | ⟨_, earlier⟩)
      · simpa [finished] using pending phase found target
      · exact alive earlier
    · intro _ same targeted
      cases same
      cases cleared.symm.trans targeted
  · intro other holds
    obtain ⟨alive, known, notTarget⟩ := inv.held other holds
    refine ⟨?_, known, ?_⟩
    · rintro (_ | ⟨_, earlier⟩)
      · exact notTarget phase found target
      · exact alive earlier
    · intro _ same targeted
      cases same
      cases cleared.symm.trans targeted
  · intro _ same other targeted
    cases same
    cases cleared.symm.trans targeted
  · rintro other (_ | ⟨_, earlier⟩)
    · exact inv.targets phase found forwarder target
    · exact inv.destroyed other earlier

/-- Only callbacks of a forwarder are left when its readers or its worker are joined. -/
theorem LifetimeInvariant.drop (inv : LifetimeInvariant state) {phase after : Phase}
    {forwarder : Forwarder} (found : state.phase = some phase) (drops : phase.drops = some forwarder)
    (same : after.target = some forwarder)
    (guarded : state.runs forwarder Activity.callback = false) :
    LifetimeInvariant { state.dropHandles forwarder (fun _ => true) with phase := some after } := by
  have target : phase.target = some forwarder := by
    cases phase <;> simp_all [Phase.drops, Phase.target]
  refine (inv.dropHandles forwarder fun _ => true).advance ?_ ?_ ?_
  · intro other targeted
    exact ⟨phase, found, target.trans (same.symm.trans targeted)⟩
  · intro other activity member targeted
    cases same.symm.trans targeted
    exact absurd ⟨rfl, rfl⟩ (State.mem_dropHandles.mp member).2
  · intro other activity active targeted
    cases same.symm.trans targeted
    obtain ⟨belongs, _, pending⟩ := inv.active forwarder activity active
    have waited := pending phase found target
    have silent := State.runs_false guarded active
    cases phase <;> cases drops <;> cases activity <;>
      simp_all [Phase.waitedFor, Activity.belongs, Activity.callback]

theorem LifetimeInvariant.stopStep (inv : LifetimeInvariant state) {phase : Phase} {next : State}
    (found : state.phase = some phase)
    (guarded : ∀ forwarder ∈ phase.drops, state.runs forwarder Activity.callback = false)
    (stepped : state.stopStep phase = some next) : LifetimeInvariant next := by
  have sameTarget : ∀ {after : Phase}, after.target = phase.target →
      ∀ forwarder, after.target = some forwarder →
        ∃ earlier, state.phase = some earlier ∧ earlier.target = some forwarder :=
    fun same forwarder target => ⟨phase, found, same.symm.trans target⟩
  cases phase with
  | latchedStop id =>
      simp only [State.stopStep] at stepped
      split at stepped <;> cases stepped
      exact inv.advance (sameTarget rfl) (fun _ _ _ _ => rfl) (fun _ _ _ _ => rfl)
  | latchedJoin id =>
      simp only [State.stopStep] at stepped
      split at stepped <;> cases stepped
      refine inv.advance (sameTarget rfl) (fun _ _ _ _ => rfl) ?_
      rename_i quiet
      intro forwarder activity active target
      cases target
      have joined := State.runs_false (Bool.not_eq_true _ ▸ quiet) active
      cases activity <;> simp_all [Phase.waitedFor]
  | latchedDrop id =>
      cases stepped
      exact inv.drop found rfl rfl (guarded _ rfl)
  | latchedComplete id =>
      cases stepped
      exact inv.destroy found rfl rfl rfl
  | topicReset =>
      simp only [State.stopStep] at stepped
      split at stepped <;> cases stepped
      · rename_i id held
        refine inv.reset (show state.Holds (.topic id) from held) ⟨rfl, rfl, rfl, rfl⟩ rfl rfl ⟨rfl, fun _ => rfl⟩ ?_
        intro other holds
        cases other with
        | topic other => cases holds
        | latched other => exact ⟨holds, (nomatch ·)⟩
      · exact inv.advance (sameTarget rfl) (fun _ _ _ _ => rfl) (fun _ _ _ _ => rfl)
  | topicCancel id =>
      cases stepped
      refine (inv.dropHandles (.topic id) (· = .videoDemandTimer)).advance (sameTarget rfl)
        (fun _ _ _ _ => rfl) (fun _ _ _ _ => rfl)
  | topicDataTracks id =>
      simp only [State.stopStep] at stepped
      split at stepped <;> cases stepped
      refine inv.advance (sameTarget rfl) (fun _ _ _ _ => rfl) ?_
      rename_i quiet
      intro forwarder activity active target
      cases target
      have joined := State.runs_false (Bool.not_eq_true _ ▸ quiet) active
      cases activity <;> simp_all [Phase.waitedFor, State.dataReader]
  | topicVideoTracks id =>
      simp only [State.stopStep, Bool.or_eq_true] at stepped
      split at stepped <;> cases stepped
      obtain ⟨_, quiet⟩ := not_or.mp ‹_›
      refine inv.advance (sameTarget rfl) (fun _ _ _ _ => rfl) ?_
      intro forwarder activity active target
      cases target
      have joined := State.runs_false (Bool.not_eq_true _ ▸ quiet) active
      have earlier := (inv.active _ _ active).2.2 _ found rfl
      cases activity <;> simp_all [Phase.waitedFor, State.videoReader]
  | topicDrop id =>
      simp only [State.stopStep] at stepped
      split at stepped <;> cases stepped
      exact inv.drop found rfl rfl (guarded _ rfl)
  | topicComplete id =>
      cases stepped
      exact inv.destroy found rfl rfl rfl
  | finish =>
      cases stepped
      refine ⟨?_, ?_, ?_, ?_, inv.destroyed⟩
      · intro forwarder activity member
        obtain ⟨callback, belongs, alive, _⟩ := inv.handles forwarder activity member
        exact ⟨callback, belongs, alive, fun _ => (nomatch ·)⟩
      · intro forwarder activity active
        obtain ⟨belongs, alive, _⟩ := inv.active forwarder activity active
        exact ⟨belongs, alive, fun _ => (nomatch ·)⟩
      · intro forwarder holds
        obtain ⟨alive, known, _⟩ := inv.held forwarder holds
        exact ⟨alive, known, fun _ => (nomatch ·)⟩
      · exact fun _ => (nomatch ·)

/-- The running activities after one of them took or released its mutex. -/
theorem State.active_of_holding {running : Running} {holding : Bool} {forwarder : Forwarder}
    {activity : Activity} (member : running ∈ state.running)
    (active : { state with running :=
      { running with holding } :: state.running.erase running }.Active forwarder activity) :
    state.Active forwarder activity := by
  obtain ⟨held, found⟩ := active
  rcases List.mem_cons.mp found with same | earlier
  · cases running
    cases same
    exact ⟨_, member⟩
  · exact ⟨held, List.mem_of_mem_erase earlier⟩

end Steps

theorem lifetimeInvariant_step {options : Options} {state next : State} {label : Label}
    (inv : LifetimeInvariant state) (guarded : DropGuarded state label)
    (stepped : (machine options).step? state label = some next) : LifetimeInvariant next := by
  change step? options state label = some next at stepped
  cases label with
  | roomEos =>
      cases stepped
      exact ⟨inv.handles, inv.active, inv.held, inv.targets, inv.destroyed⟩
  | exchangeEnded =>
      simp only [step?] at stepped
      split at stepped <;> cases stepped
      · exact ⟨inv.handles, inv.active, inv.held, inv.targets, inv.destroyed⟩
      · exact inv
  | lockStop =>
      simp only [step?] at stepped
      split at stepped <;> cases stepped
      have entered := inv.enterStop
      exact ⟨entered.handles, entered.active, entered.held, entered.targets, entered.destroyed⟩
  | failStart =>
      simp only [step?] at stepped
      split at stepped <;> cases stepped
      exact inv.enterStop
  | ensureTopicForwarder =>
      simp only [step?] at stepped
      split at stepped <;> cases stepped
      exact inv.ensureTopicForwarder options ‹_›
  | start =>
      simp only [step?] at stepped
      split at stepped <;> cases stepped
      rename_i free
      have ensured := inv.ensureTopicForwarder options free.1
      have stillFree : (state.ensureTopicForwarder options).phase = none := by
        unfold State.ensureTopicForwarder
        split <;> exact free.1
      have started := ensured.createLatchedForwarder options stillFree
      exact ⟨started.handles, started.active, started.held, started.targets, started.destroyed⟩
  | subscribe activity =>
      simp only [step?] at stepped
      split at stepped
      · rename_i permitted
        obtain ⟨free, _, subscribes⟩ := permitted
        obtain ⟨forwarder, owned, rfl⟩ := Option.map_eq_some_iff.mp stepped
        have callback : activity.callback = true := by
          simp only [Activity.subscription, Bool.and_eq_true] at subscribes
          exact subscribes.1
        exact inv.subscribe owned callback free
      · cases stepped
  | startReader activity =>
      simp only [step?] at stepped
      split at stepped
      · obtain ⟨free, _⟩ := ‹_ ∧ _›
        obtain ⟨forwarder, owned, rfl⟩ := Option.map_eq_some_iff.mp stepped
        exact inv.startReader owned free
      · cases stepped
  | begin forwarder activity =>
      simp only [step?] at stepped
      split at stepped <;> cases stepped
      rename_i handle
      refine inv.activities ?_
      intro other kind active
      obtain ⟨holding, member⟩ := active
      rcases List.mem_cons.mp member with same | earlier
      · cases same
        exact .inr handle
      · exact .inl ⟨holding, earlier⟩
  | lock running =>
      simp only [step?] at stepped
      split at stepped <;> cases stepped
      obtain ⟨member, _⟩ := ‹_ ∧ _›
      exact inv.activities fun _ _ active => .inl (State.active_of_holding member active)
  | unlock running =>
      simp only [step?] at stepped
      split at stepped <;> cases stepped
      obtain ⟨member, _⟩ := ‹_ ∧ _›
      exact inv.activities fun _ _ active => .inl (State.active_of_holding member active)
  | «end» running =>
      simp only [step?] at stepped
      split at stepped <;> cases stepped
      refine inv.activities ?_
      intro forwarder activity active
      obtain ⟨holding, found⟩ := active
      exact .inl ⟨holding, List.mem_of_mem_erase found⟩
  | stop =>
      obtain ⟨phase, found, stops⟩ := Option.bind_eq_some_iff.mp stepped
      exact inv.stopStep found (guarded rfl phase found) stops

theorem lifetimeInvariant_of_run {options : Options} {state : State}
    (run : (machine options).Run DropGuarded {} state) : LifetimeInvariant state :=
  run.invariant lifetimeInvariant_initial fun inv guarded stepped =>
    lifetimeInvariant_step inv guarded stepped

/-- A destructor that drops its handles under a running callback goes on to complete. -/
theorem dangling_of_unguarded {options : Options} {state next : State} {label : Label}
    (unguarded : ¬ DropGuarded state label)
    (stepped : (machine options).step? state label = some next) :
    ∃ final, (machine options).Reaches next final ∧ ¬ NoneDangling final := by
  simp only [DropGuarded, Classical.not_imp, not_forall, Bool.not_eq_false] at unguarded
  obtain ⟨rfl, phase, found, forwarder, drops, runs⟩ := unguarded
  obtain ⟨running, member, own⟩ := List.any_eq_true.mp runs
  simp only [Bool.and_eq_true, decide_eq_true_eq] at own
  obtain ⟨_, found', stops⟩ := Option.bind_eq_some_iff.mp stepped
  cases Option.mem_def.mp found |>.symm.trans found'
  cases phase with
  | latchedDrop id =>
      cases drops
      cases stops
      refine ⟨_, .of_exec [.stop] rfl, fun none => ?_⟩
      exact none running member (own.1 ▸ List.mem_cons_self)
  | topicDrop id =>
      cases drops
      simp only [State.stopStep] at stops
      split at stops <;> cases stops
      refine ⟨_, .of_exec [.stop] rfl, fun none => ?_⟩
      exact none running member (own.1 ▸ List.mem_cons_self)
  | _ => cases drops

/-- No forwarder is destroyed under a running activity in a run whose destructors drop
their handles when no callback runs, and one that does not leads to a destroyed
forwarder with a running callback. -/
theorem none_dangling (options : Options) :
    (∀ state, (machine options).Run DropGuarded {} state → NoneDangling state) ∧
    ∀ state label next, (machine options).Reaches {} state → ¬ DropGuarded state label →
      (machine options).step? state label = some next →
      ∃ final, (machine options).Reaches {} final ∧ ¬ NoneDangling final := by
  refine ⟨fun state run running member => ?_, ?_⟩
  · exact ((lifetimeInvariant_of_run run).active _ _ ⟨running.holding, member⟩).2.1
  · intro state label next reached unguarded stepped
    obtain ⟨final, later, dangling⟩ := dangling_of_unguarded unguarded stepped
    exact ⟨final, (reached.step trivial stepped).trans later, dangling⟩

/-- The node subscribes to a topic and a sample of it arrives. -/
def sampleArrives : List Label :=
  [.ensureTopicForwarder, .start, .subscribe (.dataSubscription "/chatter"),
    .begin (.topic 0) (.dataSubscription "/chatter")]

/-- The room ends and the timer or the worker stops the components. -/
def stopAll : List Label :=
  [.roomEos, .exchangeEnded, .lockStop, .stop, .end ⟨.latched 1, .pushWorker, false⟩, .stop, .stop,
    .stop, .stop, .stop, .stop, .stop, .stop, .stop, .stop]

theorem none_dangling_after_callback :
    ∃ state, (machine {}).exec? {}
        (sampleArrives ++ [.end ⟨.topic 0, .dataSubscription "/chatter", false⟩] ++ stopAll) = some state ∧
      state.destroyed = [.topic 0, .latched 1] ∧ NoneDangling state :=
  ⟨_, rfl, rfl, (none_dangling {}).1 _ (Machine.Run.of_exec
    (sampleArrives ++ [.end ⟨.topic 0, .dataSubscription "/chatter", false⟩] ++ stopAll) rfl)⟩

theorem some_dangling :
    ¬ ∀ (options : Options) (state : State), (machine options).Reaches {} state →
      NoneDangling state := by
  intro never
  have reached : (machine {}).Reaches {} _ := .of_exec (sampleArrives ++ stopAll) rfl
  exact never {} _ reached ⟨.topic 0, .dataSubscription "/chatter", false⟩ (by decide) (by decide)

end RosPortal.Portal.Lifetimes
