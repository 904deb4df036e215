import RosPortal.Discovery.Recovery

/-! The snapshots of the graph manager while its worker is started, runs and ends. Every change
of the graph sets the graph event, and any thread may read the snapshots. -/

set_option autoImplicit false

namespace RosPortal.Discovery.SnapshotCache

open Interleaving

/-- Where `start()` and the worker are. The worker is active while it runs its loop, and until
it has said that it leaves. -/
inductive Phase (Topics : Type) where
  | stopped
  | registered
  | invalidated
  | running (control : Control Topics)
  | leaving
deriving DecidableEq

def Phase.active {Topics : Type} : Phase Topics → Bool
  | .running _ | .leaving => true
  | .stopped | .registered | .invalidated => false

structure State (Topics Services : Type) where
  topics : Topics
  services : Services
  manager : GraphManager Topics Services := {}
  phase : Phase Topics := .stopped
deriving DecidableEq

/-- A step of `start()` or of the worker, which may find that a snapshot could not be applied,
or the end of either; a change of the graph, a graph event without a change, and calls of
`topics()` and `services()` by other threads. -/
inductive Label (Topics Services : Type) where
  | start
  | work (applied : Bool)
  | leave
  | changed (topics : Topics) (services : Services)
  | graphEvent
  | readTopics
  | readServices
deriving DecidableEq

/-- Where the loop can end: it is stopped around a wait, and graph queries, callbacks and waits
may throw. -/
def mayLeave {Topics : Type} : Control Topics → Bool
  | .topics _ | .reconcile _ _ | .wait | .reap => true
  | .compare _ _ | .record _ _ | .settle | .invalidate => false

variable {Topics Services : Type}

namespace State

variable [DecidableEq Topics]

/-- The graph event, which is there from its registration on, is set. -/
def notify (state : State Topics Services) : State Topics Services :=
  if state.phase = .stopped then state else { state with manager := state.manager.setEvent true }

/-- One step of `discoveryLoop`. -/
def loop (state : State Topics Services) (applied : Bool) : Control Topics → State Topics Services
  | .topics looping =>
      { state with
        manager := state.manager.readTopics state.topics
        phase := .running (.compare looping (state.manager.topicSnapshot state.topics)) }
  | .compare looping topics =>
      { state with
        phase := .running
          (if state.manager.lastReconciledTopics = some topics then afterPass looping
          else .reconcile looping topics) }
  | .reconcile looping topics =>
      { state with phase := .running (if applied then .record looping topics else afterPass looping) }
  | .record looping topics =>
      { state with
        manager := { state.manager with lastReconciledTopics := some topics }
        phase := .running (afterPass looping) }
  -- the first `check_and_clear`
  | .wait =>
      { state with
        manager := state.manager.setEvent false
        phase := .running (if state.manager.event then .settle else .reap) }
  -- the second
  | .settle => { state with manager := state.manager.setEvent false, phase := .running .invalidate }
  | .invalidate =>
      { state with manager := state.manager.invalidate, phase := .running (.topics true) }
  | .reap => { state with phase := .running .wait }

def work? (state : State Topics Services) (applied : Bool) : Option (State Topics Services) :=
  match state.phase with
  | .stopped => none
  | .registered => some { state with manager := state.manager.invalidate, phase := .invalidated }
  | .invalidated =>
      some { state with
        manager := { state.manager with lastReconciledTopics := none }
        phase := .running (.topics false) }
  | .running control => some (state.loop applied control)
  | .leaving => some { state with phase := .stopped }

def leave? (state : State Topics Services) : Option (State Topics Services) :=
  match state.phase with
  | .registered | .invalidated => some { state with phase := .stopped }
  | .running control => if mayLeave control then some { state with phase := .leaving } else none
  | .stopped | .leaving => none

def step? (state : State Topics Services) : Label Topics Services → Option (State Topics Services)
  | .start =>
      if state.phase = .stopped then
        some { state with manager := state.manager.setEvent false, phase := .registered }
      else none
  | .work applied => state.work? applied
  | .leave => state.leave?
  | .changed topics services => some ({ state with topics, services } : State Topics Services).notify
  | .graphEvent => some state.notify
  | .readTopics => some { state with manager := state.manager.readTopics state.topics }
  | .readServices => some { state with manager := state.manager.readServices state.services }

end State

def machine (Topics Services : Type) [DecidableEq Topics] :
    Machine (State Topics Services) (Label Topics Services) := ⟨State.step?⟩

/-- No worker and no snapshots, whatever the graph is. -/
def initial (topics : Topics) (services : Services) : State Topics Services := { topics, services }

def State.Stale (state : State Topics Services) : Prop :=
  (∃ topics ∈ state.manager.topics, topics ≠ state.topics) ∨
    ∃ services ∈ state.manager.services, services ≠ state.services

/-- The graph event is set, or the worker is between its first successful `check_and_clear` and
the invalidation that follows. -/
def State.Noticed (state : State Topics Services) : Prop :=
  state.manager.event = true ∨ state.phase = .running .settle ∨ state.phase = .running .invalidate

def State.Current (state : State Topics Services) : Prop :=
  state.manager.Cached (· = state.topics) (· = state.services)

/-- From the invalidation of `start()` on, the snapshots are current or the change is noticed. -/
def State.Honest (state : State Topics Services) : Prop :=
  state.phase ≠ .stopped → state.phase ≠ .registered → state.Current ∨ state.Noticed

section Invariant

variable {state next : State Topics Services}

theorem State.Current.not_stale (current : state.Current) : ¬ state.Stale := by
  rintro (⟨topics, cached, differs⟩ | ⟨services, cached, differs⟩)
  · exact differs (current.1 topics cached)
  · exact differs (current.2 services cached)

theorem State.Honest.noticed (honest : state.Honest) (active : state.phase.active = true)
    (stale : state.Stale) : state.Noticed := by
  have begun : state.phase ≠ .stopped ∧ state.phase ≠ .registered := by
    cases known : state.phase <;> simp_all [Phase.active]
  exact (honest begun.1 begun.2).resolve_left fun current => current.not_stale stale

theorem honest_initial (topics : Topics) (services : Services) : (initial topics services).Honest :=
  fun begun => absurd rfl begun

theorem State.Noticed.event (noticed : state.Noticed) {control : Control Topics}
    (running : state.phase = .running control) (outside : ¬ (control = .settle ∨ control = .invalidate)) :
    state.manager.event = true := by
  rcases noticed with set | settling | invalidating
  · exact set
  · cases running.symm.trans settling
    exact absurd (.inl rfl) outside
  · cases running.symm.trans invalidating
    exact absurd (.inr rfl) outside

theorem State.Honest.leave (honest : state.Honest) (left : state.leave? = some next) : next.Honest := by
  unfold State.leave? at left
  cases known : state.phase with
  | stopped | leaving => simp [known] at left
  | registered | invalidated =>
      simp only [known] at left
      cases left
      exact fun begun => absurd rfl begun
  | running control =>
      simp only [known] at left
      split_ifs at left with may
      cases left
      have outside : ¬ (control = .settle ∨ control = .invalidate) := by
        rintro (rfl | rfl) <;> cases may
      exact fun _ _ => (honest (by simp [known]) (by simp [known])).imp id fun noticed =>
        .inl (noticed.event known outside)

/-- Readers take the graph as it is where nothing is cached. -/
theorem State.Honest.read (honest : state.Honest) {manager : GraphManager Topics Services}
    (event : manager.event = state.manager.event)
    (current : state.Current → manager.Cached (· = state.topics) (· = state.services)) :
    State.Honest { state with manager } := by
  intro begun registered
  refine (honest begun registered).imp current fun noticed => ?_
  simpa only [State.Noticed, event] using noticed

variable [DecidableEq Topics]

theorem notify_noticed (begun : state.notify.phase ≠ .stopped) : state.notify.Noticed := by
  unfold State.notify at begun ⊢
  split_ifs at begun ⊢ with stopped
  · exact absurd stopped begun
  · exact .inl rfl

theorem State.Honest.loop (honest : state.Honest) {control : Control Topics} (applied : Bool)
    (running : state.phase = .running control) : (state.loop applied control).Honest := by
  intro _ _
  have known : state.Current ∨ state.Noticed := by
    refine honest ?_ ?_ <;> simp [running]
  cases control with
  | topics looping =>
      exact known.imp (fun current => current.readTopics rfl) fun noticed => .inl (noticed.event running nofun)
  | compare looping topics => exact known.imp id fun noticed => .inl (noticed.event running nofun)
  | reconcile looping topics => exact known.imp id fun noticed => .inl (noticed.event running nofun)
  | record looping topics => exact known.imp id fun noticed => .inl (noticed.event running nofun)
  | wait =>
      -- the worker goes past an event that is not set only with current snapshots
      cases set : state.manager.event with
      | true => exact .inr (.inr (.inl (by simp [State.loop, set])))
      | false => exact .inl (known.resolve_right (by simp [State.Noticed, running, set]))
  | settle => exact .inr (.inr (.inr rfl))
  | invalidate => exact .inl (GraphManager.invalidate_cached _ _ _)
  | reap => exact known.imp id fun noticed => .inl (noticed.event running nofun)

theorem State.Honest.work (honest : state.Honest) {applied : Bool}
    (worked : state.work? applied = some next) : next.Honest := by
  unfold State.work? at worked
  cases known : state.phase with
  | stopped => simp [known] at worked
  | registered =>
      simp only [known] at worked
      cases worked
      exact fun _ _ => .inl (GraphManager.invalidate_cached _ _ _)
  | invalidated =>
      simp only [known] at worked
      cases worked
      refine fun _ _ => (honest (by simp [known]) (by simp [known])).imp id fun noticed => .inl ?_
      simpa [State.Noticed, known] using noticed
  | running control =>
      simp only [known] at worked
      cases worked
      exact honest.loop applied known
  | leaving =>
      simp only [known] at worked
      cases worked
      exact fun begun => absurd rfl begun

theorem honest_step (honest : state.Honest) {label : Label Topics Services}
    (stepped : (machine Topics Services).step? state label = some next) : next.Honest := by
  cases label with
  | start =>
      simp only [machine, State.step?] at stepped
      split_ifs at stepped
      cases stepped
      exact fun _ registered => absurd rfl registered
  | work applied => exact honest.work stepped
  | leave => exact honest.leave stepped
  | changed topics services =>
      cases stepped
      exact fun begun _ => .inr (notify_noticed begun)
  | graphEvent =>
      cases stepped
      exact fun begun _ => .inr (notify_noticed begun)
  | readTopics =>
      cases stepped
      exact honest.read rfl fun current => current.readTopics rfl
  | readServices =>
      cases stepped
      exact honest.read rfl fun current => current.readServices rfl

theorem honest_of_reaches {topics : Topics} {services : Services}
    (reached : (machine Topics Services).Reaches (initial topics services) state) : state.Honest :=
  reached.invariant (honest_initial topics services) fun honest _ stepped => honest_step honest stepped

end Invariant

section Progress

variable {state next : State Topics Services} {label : Label Topics Services}

/-- How many steps the worker has left at most to the end of its next invalidation, with the
event set. -/
def remaining : Control Topics → Nat
  | .topics _ => 8
  | .compare _ _ => 7
  | .reconcile _ _ => 6
  | .record _ _ => 5
  | .reap => 4
  | .wait => 3
  | .settle => 2
  | .invalidate => 1

def Label.isWork : Label Topics Services → Bool
  | .work _ => true
  | _ => false

/-- The worker is about to drop the snapshots. -/
def Invalidates (state : State Topics Services) (label : Label Topics Services) : Prop :=
  state.phase = .running .invalidate ∧ label.isWork = true

def InvalidatesWithin [DecidableEq Topics] (state : State Topics Services)
    (labels : List (Label Topics Services)) : Prop :=
  ∃ before label after middle, labels = before ++ label :: after ∧
    (machine Topics Services).exec? state before = some middle ∧ Invalidates middle label

theorem remaining_afterPass (looping : Bool) : remaining (afterPass looping : Control Topics) ≤ 4 := by
  cases looping
  · exact Nat.le_succ 3
  · exact Nat.le_refl 4

theorem remaining_le (control : Control Topics) : remaining control ≤ 8 := by
  cases control <;> simp [remaining]

variable [DecidableEq Topics]

/-- While a change is noticed, each step of the worker brings it nearer to its invalidation. -/
theorem loop_nearer (applied : Bool) {control : Control Topics} (noticed : state.Noticed)
    (running : state.phase = .running control) (early : control ≠ .invalidate) :
    ∃ after, (state.loop applied control).phase = .running after ∧ remaining after < remaining control ∧
      (state.loop applied control).Noticed := by
  have passed (looping : Bool) : remaining (afterPass looping : Control Topics) ≤ 4 :=
    remaining_afterPass looping
  cases control with
  | topics looping => exact ⟨_, rfl, Nat.lt_succ_self 7, .inl (noticed.event running nofun)⟩
  | compare looping topics =>
      refine ⟨_, rfl, ?_, .inl (noticed.event running nofun)⟩
      have near := passed looping
      split_ifs
      · change remaining (afterPass looping) < 7
        omega
      · exact Nat.lt_succ_self 6
  | reconcile looping topics =>
      refine ⟨_, rfl, ?_, .inl (noticed.event running nofun)⟩
      have near := passed looping
      split_ifs
      · exact Nat.lt_succ_self 5
      · change remaining (afterPass looping) < 6
        omega
  | record looping topics =>
      exact ⟨_, rfl, Nat.lt_of_le_of_lt (passed looping) (Nat.lt_succ_self 4), .inl (noticed.event running nofun)⟩
  | wait =>
      have set := noticed.event running nofun
      exact ⟨.settle, by simp [State.loop, set], Nat.lt_succ_self 2, .inr (.inl (by simp [State.loop, set]))⟩
  | settle => exact ⟨.invalidate, rfl, Nat.lt_succ_self 1, .inr (.inr rfl)⟩
  | invalidate => exact absurd rfl early
  | reap => exact ⟨.wait, rfl, Nat.lt_succ_self 3, .inl (noticed.event running nofun)⟩

/-- Steps of others leave the worker where it is, and the change noticed. -/
theorem other_step {control : Control Topics} (noticed : state.Noticed) (running : state.phase = .running control)
    (other : label.isWork = false) (stays : label ≠ .leave)
    (stepped : (machine Topics Services).step? state label = some next) :
    next.phase = .running control ∧ next.Noticed := by
  have notified (state : State Topics Services) (running : state.phase = .running control) :
      state.notify.phase = .running control ∧ state.notify.Noticed := by
    have begun : state.phase ≠ .stopped := by simp [running]
    simp only [State.notify, if_neg begun]
    exact ⟨running, .inl rfl⟩
  cases label with
  | start =>
      simp only [machine, State.step?, running, reduceCtorEq, if_false] at stepped
  | work _ => cases other
  | leave => exact absurd rfl stays
  | changed topics services =>
      cases stepped
      exact notified _ running
  | graphEvent =>
      cases stepped
      exact notified _ running
  | readTopics =>
      cases stepped
      exact ⟨running, noticed⟩
  | readServices =>
      cases stepped
      exact ⟨running, noticed⟩

theorem InvalidatesWithin.cons {labels : List (Label Topics Services)} (later : InvalidatesWithin next labels)
    (stepped : (machine Topics Services).step? state label = some next) :
    InvalidatesWithin state (label :: labels) := by
  obtain ⟨before, last, after, middle, rfl, ran, invalidates⟩ := later
  exact ⟨label :: before, last, after, middle, rfl, Option.bind_eq_some_iff.mpr ⟨next, stepped, ran⟩,
    invalidates⟩

/-- A change that is noticed is followed by an invalidation within a few steps of the worker. -/
theorem invalidated_of_exec (labels : List (Label Topics Services)) {final : State Topics Services}
    {control : Control Topics} (noticed : state.Noticed) (running : state.phase = .running control)
    (stays : .leave ∉ labels) (enough : remaining control ≤ labels.countP Label.isWork)
    (executed : (machine Topics Services).exec? state labels = some final) :
    InvalidatesWithin state labels := by
  induction labels generalizing state control with
  | nil => cases control <;> cases enough
  | cons label labels ih =>
      obtain ⟨next, stepped, rest⟩ := Option.bind_eq_some_iff.mp executed
      have staysRest : .leave ∉ labels := fun later => stays (List.mem_cons_of_mem _ later)
      have staysHere : label ≠ .leave := fun same => stays (same ▸ List.mem_cons_self)
      cases works : label.isWork with
      | false =>
          obtain ⟨there, noticedNext⟩ := other_step noticed running works staysHere stepped
          rw [List.countP_cons_of_neg (by simp [works])] at enough
          exact (ih noticedNext there staysRest enough rest).cons stepped
      | true =>
          by_cases here : control = .invalidate
          · subst control
            exact ⟨[], label, labels, state, rfl, rfl, running, works⟩
          · rw [List.countP_cons_of_pos works] at enough
            cases label with
            | work applied =>
                have looped : next = state.loop applied control := by
                  have moved : state.work? applied = some next := stepped
                  simp only [State.work?, running] at moved
                  exact (Option.some.inj moved).symm
                obtain ⟨after, there, nearer, noticedNext⟩ := loop_nearer applied noticed running here
                rw [← looped] at there noticedNext
                exact (ih noticedNext there staysRest (by omega) rest).cons stepped
            | start | leave | changed _ _ | graphEvent | readTopics | readServices => cases works

/-- While the worker is active, a snapshot differs from the graph only where that is noticed. A
change is noticed, what is noticed leads to an invalidation within eight steps of the worker, and
that leaves no snapshots. -/
theorem changes_not_hidden (topics : Topics) (services : Services)
    (reached : (machine Topics Services).Reaches (initial topics services) state)
    (active : state.phase.active = true) :
    (state.Stale → state.Noticed) ∧
    (∀ topics services next, (machine Topics Services).step? state (.changed topics services) = some next →
      next.phase = state.phase ∧ next.Noticed) ∧
    (∀ control labels final, state.phase = .running control → state.Noticed →
      (machine Topics Services).exec? state labels = some final → .leave ∉ labels →
      8 ≤ labels.countP Label.isWork → InvalidatesWithin state labels) ∧
    ∀ label next, Invalidates state label → (machine Topics Services).step? state label = some next →
      next.manager.topics = none ∧ next.manager.services = none := by
  refine ⟨(honest_of_reaches reached).noticed active, ?_, ?_, ?_⟩
  · intro topics services next stepped
    cases stepped
    have begun : state.phase ≠ .stopped := by
      intro stopped
      rw [stopped] at active
      cases active
    rw [State.notify, if_neg begun]
    exact ⟨rfl, .inl rfl⟩
  · intro control labels final running noticed executed stays enough
    exact invalidated_of_exec labels noticed running stays (Nat.le_trans (remaining_le control) enough) executed
  · intro label next invalidates stepped
    obtain ⟨running, works⟩ := invalidates
    cases label with
    | work applied =>
        have moved : state.work? applied = some next := stepped
        simp only [State.work?, running] at moved
        cases moved
        exact ⟨rfl, rfl⟩
    | start | leave | changed _ _ | graphEvent | readTopics | readServices => cases works

end Progress

/-- The worker has passed its first check when another thread reads the services and a topic
appears, and its second check clears the event. -/
def changeInDebounce : List (Label (List String) (List String)) :=
  [.start, .work true, .work true, .work true, .work true, .work true, .work true, .graphEvent,
    .work true, .readServices, .changed ["/camera"] [], .work true]

theorem changes_not_hidden_in_debounce :
    ∃ state : State (List String) (List String), state.manager.topics = some [] ∧
      state.topics = ["/camera"] ∧ state.manager.event = false ∧ state.Noticed := by
  obtain ⟨state, reached, active, cached, graph, cleared⟩ := Machine.Reaches.exists_of_exec
    (machine (List String) (List String)) (initial [] []) changeInDebounce
    (fun state => state.phase.active = true ∧ state.manager.topics = some [] ∧
      state.topics = ["/camera"] ∧ state.manager.event = false) (by decide +kernel)
  refine ⟨state, cached, graph, cleared, (changes_not_hidden [] [] reached active).1 (.inl ⟨[], cached, ?_⟩)⟩
  rw [graph]
  exact List.cons_ne_nil _ _ |>.symm

end RosPortal.Discovery.SnapshotCache
