import RosPortal.Discovery.Loop

/-! What a wake-up of the worker leaves behind. A wake-up by an event reads the graph
again; one by timeout leaves every snapshot as it was, so a change that was missed stays
missed. -/

set_option autoImplicit false

namespace RosPortal.Discovery

open Interleaving

variable {World Change Topics Services : Type}

/-- The last applied snapshot, and what `topics()` and `services()` return, are graphs that
there have been since the last wake-up. -/
structure Refreshed (callbacks : Callbacks World Change Topics Services)
    (state : State World Topics Services) : Prop where
  applied : ∃ topics ∈ state.history.topics, state.manager.lastReconciledTopics = some topics
  topics : state.manager.topicSnapshot (callbacks.getTopicNamesAndTypes state.world) ∈
    state.history.topics
  services : state.manager.serviceSnapshot (callbacks.getServiceNamesAndTypes state.world) ∈
    state.history.services

/-- The worker wakes up by timeout only while no change of the graph has been missed. -/
def NothingMissed (state : State World Topics Services) (label : Label Change) : Prop :=
  label = .work → state.worker = .wait → state.manager.event = false → state.history.missed = false

instance [DecidableEq Change] [DecidableEq Topics] (state : State World Topics Services) (label : Label Change) :
    Decidable (NothingMissed state label) :=
  inferInstanceAs (Decidable (label = .work → state.worker = .wait → _ → _))

def initial (world : World) : State World Topics Services := { world }

/-- Both snapshots are absent or have the given properties. -/
def GraphManager.Cached (manager : GraphManager Topics Services) (topic : Topics → Prop)
    (service : Services → Prop) : Prop :=
  (∀ topics ∈ manager.topics, topic topics) ∧ ∀ services ∈ manager.services, service services

/-- What the worker holds at a point of its loop: the snapshots and, in a pass, the one
it has taken, and at the end of it the one it has applied. -/
def GraphManager.Holds (manager : GraphManager Topics Services) (topic : Topics → Prop)
    (service : Services → Prop) : Control Topics → Prop
  | .topics _ => manager.Cached topic service
  | .compare _ taken | .reconcile _ taken | .record _ taken =>
      manager.Cached topic service ∧ topic taken
  | .wait | .reap =>
      manager.Cached topic service ∧ ∃ applied, manager.lastReconciledTopics = some applied ∧ topic applied
  | .settle | .invalidate => True

def Control.first : Control Topics → Bool
  | .topics looping | .compare looping _ | .reconcile looping _ | .record looping _ => !looping
  | _ => false

@[simp] theorem first_afterPass (looping : Bool) : (afterPass looping : Control Topics).first = false := by
  cases looping <;> rfl

/-- Unless something has changed since, the worker holds the graph as it is. -/
def CaughtUp (callbacks : Callbacks World Change Topics Services) (state : State World Topics Services) :
    Prop :=
  state.manager.event = false → state.history.missed = false →
    state.manager.Holds (· = callbacks.getTopicNamesAndTypes state.world)
      (· = callbacks.getServiceNamesAndTypes state.world) state.worker

/-- Once woken, the worker holds graphs from after the wake-up. -/
structure Fresh (callbacks : Callbacks World Change Topics Services) (state : State World Topics Services) :
    Prop where
  first : state.worker.first = true → state.history.wakeups = 0
  topics : 0 < state.history.wakeups →
    callbacks.getTopicNamesAndTypes state.world ∈ state.history.topics
  services : 0 < state.history.wakeups →
    callbacks.getServiceNamesAndTypes state.world ∈ state.history.services
  holds : 0 < state.history.wakeups →
    state.manager.Holds (· ∈ state.history.topics) (· ∈ state.history.services) state.worker

namespace GraphManager

variable {manager : GraphManager Topics Services} {topic topic' : Topics → Prop}
  {service service' : Services → Prop} {control : Control Topics}

theorem Cached.mono (cached : manager.Cached topic service)
    (topics : ∀ value, topic value → topic' value) (services : ∀ value, service value → service' value) :
    manager.Cached topic' service' :=
  ⟨fun value found => topics value (cached.1 value found),
    fun value found => services value (cached.2 value found)⟩

theorem Holds.mono (holds : manager.Holds topic service control)
    (topics : ∀ value, topic value → topic' value) (services : ∀ value, service value → service' value) :
    manager.Holds topic' service' control := by
  cases control with
  | topics => exact Cached.mono holds topics services
  | compare | reconcile | record => exact ⟨holds.1.mono topics services, topics _ holds.2⟩
  | wait | reap =>
      obtain ⟨cached, applied, last, held⟩ := holds
      exact ⟨cached.mono topics services, applied, last, topics applied held⟩
  | settle | invalidate => trivial

theorem topicSnapshot_of_cached (cached : manager.Cached topic service) {graph : Topics}
    (current : topic graph) : topic (manager.topicSnapshot graph) := by
  unfold topicSnapshot
  cases found : manager.topics with
  | none => exact current
  | some topics => exact cached.1 topics found

theorem serviceSnapshot_of_cached (cached : manager.Cached topic service) {graph : Services}
    (current : service graph) : service (manager.serviceSnapshot graph) := by
  unfold serviceSnapshot
  cases found : manager.services with
  | none => exact current
  | some services => exact cached.2 services found

theorem Cached.readTopics (cached : manager.Cached topic service) {graph : Topics}
    (current : topic graph) : (manager.readTopics graph).Cached topic service := by
  refine ⟨?_, cached.2⟩
  intro value found
  cases found
  exact topicSnapshot_of_cached cached current

theorem Cached.readServices (cached : manager.Cached topic service) {graph : Services}
    (current : service graph) : (manager.readServices graph).Cached topic service := by
  refine ⟨cached.1, ?_⟩
  intro value found
  cases found
  exact serviceSnapshot_of_cached cached current

theorem Holds.cached (holds : manager.Holds topic service control)
    (loaded : control ≠ .settle ∧ control ≠ .invalidate) : manager.Cached topic service := by
  cases control with
  | topics => exact holds
  | compare | reconcile | record | wait | reap => exact holds.1
  | settle => exact absurd rfl loaded.1
  | invalidate => exact absurd rfl loaded.2

theorem invalidate_cached (manager : GraphManager Topics Services) (topic : Topics → Prop)
    (service : Services → Prop) : manager.invalidate.Cached topic service := by
  constructor
  · intro value found
    cases found
  · intro value found
    cases found

/-- A reader of the snapshots leaves the worker what it holds. -/
theorem Holds.with_cached {manager' : GraphManager Topics Services}
    (holds : manager.Holds topic service control)
    (cached : manager.Cached topic service → manager'.Cached topic service)
    (same : manager'.lastReconciledTopics = manager.lastReconciledTopics) :
    manager'.Holds topic service control := by
  cases control with
  | topics => exact cached holds
  | compare | reconcile | record => exact ⟨cached holds.1, holds.2⟩
  | wait | reap =>
      obtain ⟨held, applied, last, current⟩ := holds
      exact ⟨cached held, applied, same.trans last, current⟩
  | settle | invalidate => trivial

theorem holds_afterPass (looping : Bool) {taken : Topics} (cached : manager.Cached topic service)
    (last : manager.lastReconciledTopics = some taken) (held : topic taken) :
    manager.Holds topic service (afterPass looping) := by
  cases looping <;> exact ⟨cached, taken, last, held⟩

end GraphManager

theorem Fresh.with_manager {callbacks : Callbacks World Change Topics Services}
    {state : State World Topics Services} (fresh : Fresh callbacks state) {manager : GraphManager Topics Services}
    {missed : Bool}
    (cached : 0 < state.history.wakeups →
      state.manager.Cached (· ∈ state.history.topics) (· ∈ state.history.services) →
        manager.Cached (· ∈ state.history.topics) (· ∈ state.history.services))
    (same : manager.lastReconciledTopics = state.manager.lastReconciledTopics) :
    Fresh callbacks { state with manager, history := { state.history with missed } } :=
  ⟨fresh.first, fresh.topics, fresh.services,
    fun woken => (fresh.holds woken).with_cached (cached woken) same⟩

section Step

variable [DecidableEq Topics] [DecidableEq Services]
  {callbacks : Callbacks World Change Topics Services} {state : State World Topics Services}

/-- The worker's own steps keep what it holds, if that is true of the graph as it is. -/
theorem work_holds (succeeds : ∀ world topics, (callbacks.reconcileTopics world topics).2 = true)
    (topic : Topics → Prop) (service : Services → Prop) (notWait : state.worker ≠ .wait)
    (current : topic (callbacks.getTopicNamesAndTypes state.world))
    (holds : state.manager.Holds topic service state.worker) :
    (state.work callbacks).manager.Holds topic service (state.work callbacks).worker := by
  obtain ⟨world, manager, worker, history⟩ := state
  cases worker with
  | topics looping =>
      exact ⟨GraphManager.Cached.readTopics holds current, GraphManager.topicSnapshot_of_cached holds current⟩
  | compare looping taken =>
      simp only [State.work]
      split
      · exact GraphManager.holds_afterPass looping holds.1 ‹_› holds.2
      · exact holds
  | reconcile looping taken =>
      simp only [State.work, State.enter, succeeds world taken, ↓reduceIte]
      exact holds
  | record looping taken => exact GraphManager.holds_afterPass looping holds.1 rfl holds.2
  | wait => exact absurd rfl notWait
  | settle => trivial
  | invalidate => exact manager.invalidate_cached topic service
  | reap => exact holds

/-- Entering another world goes unnoticed only if it has the same graph. -/
theorem enter_unmissed {world : World} (unmissed : (state.enter callbacks world).history.missed = false) :
    state.history.missed = false ∧
      callbacks.getTopicNamesAndTypes world = callbacks.getTopicNamesAndTypes state.world ∧
      callbacks.getServiceNamesAndTypes world = callbacks.getServiceNamesAndTypes state.world := by
  obtain ⟨missed, same⟩ := Bool.or_eq_false_iff.mp unmissed
  exact ⟨missed, by simpa using same⟩

theorem CaughtUp.enter (inv : CaughtUp callbacks state) {world : World}
    (quiet : state.manager.event = false)
    (unmissed : (state.enter callbacks world).history.missed = false) :
    state.manager.Holds (· = callbacks.getTopicNamesAndTypes world)
      (· = callbacks.getServiceNamesAndTypes world) state.worker := by
  obtain ⟨missed, topics, services⟩ := enter_unmissed unmissed
  exact (inv quiet missed).mono (fun _ current => current.trans topics.symm)
    (fun _ current => current.trans services.symm)

theorem caughtUp_step (succeeds : ∀ world topics, (callbacks.reconcileTopics world topics).2 = true)
    (inv : CaughtUp callbacks state) (label : Label Change) :
    CaughtUp callbacks (state.step callbacks label) := by
  intro quiet unmissed
  cases label with
  | graphEvent => cases quiet
  | changed change notified =>
      cases notified with
      | true => cases quiet
      | false => exact inv.enter quiet unmissed
  | readTopics => exact (inv quiet unmissed).with_cached (fun cached => cached.readTopics rfl) rfl
  | readServices => exact (inv quiet unmissed).with_cached (fun cached => cached.readServices rfl) rfl
  | work =>
      obtain ⟨world, manager, worker, history⟩ := state
      cases worker with
      | topics | compare | record =>
          exact work_holds succeeds (· = callbacks.getTopicNamesAndTypes world)
            (· = callbacks.getServiceNamesAndTypes world) (by simp) rfl (inv quiet unmissed)
      | reconcile looping taken =>
          simp only [State.step, State.work] at quiet unmissed
          have held := inv.enter quiet unmissed
          obtain ⟨_, topics, _⟩ := enter_unmissed unmissed
          exact work_holds succeeds _ _ (by simp) topics.symm held
      | wait =>
          cases event : manager.event with
          | true =>
              simp only [State.step, State.work, event, ↓reduceIte]
              trivial
          | false =>
              simp only [State.step, State.work, event, Bool.false_eq_true, ↓reduceIte] at unmissed ⊢
              exact inv event unmissed
      | settle => trivial
      | invalidate => exact manager.invalidate_cached _ _
      | reap => exact inv.enter quiet unmissed

theorem Fresh.enter (fresh : Fresh callbacks state) (world : World) : Fresh callbacks (state.enter callbacks world) := by
  constructor
  · exact fresh.first
  · intro _
    exact List.mem_cons_self
  · intro _
    exact List.mem_cons_self
  · intro woken
    exact (fresh.holds woken).mono (fun _ earlier => List.mem_cons_of_mem _ earlier)
      (fun _ earlier => List.mem_cons_of_mem _ earlier)

/-- A wake-up by timeout that has missed nothing finds the graph applied as it is. -/
theorem fresh_wake (fresh : Fresh callbacks state) (caughtUp : CaughtUp callbacks state)
    (waiting : state.worker = .wait)
    (unmissed : state.manager.event = false → state.history.missed = false) :
    Fresh callbacks (state.work callbacks) := by
  obtain ⟨world, manager, worker, history⟩ := state
  cases waiting
  cases event : manager.event with
  | true =>
      simp only [State.work, event, ↓reduceIte]
      constructor
      · intro first
        cases first
      · intro _
        exact List.mem_singleton_self _
      · intro _
        exact List.mem_singleton_self _
      · intro _
        trivial
  | false =>
      simp only [State.work, event, Bool.false_eq_true, ↓reduceIte]
      constructor
      · intro first
        cases first
      · intro _
        exact List.mem_singleton_self _
      · intro _
        exact List.mem_singleton_self _
      · intro _
        exact (caughtUp event (unmissed event)).mono (fun _ current => List.mem_singleton.mpr current)
          (fun _ current => List.mem_singleton.mpr current)

theorem first_work (succeeds : ∀ world topics, (callbacks.reconcileTopics world topics).2 = true)
    (first : (state.work callbacks).worker.first = true) : state.worker.first = true := by
  obtain ⟨world, manager, worker, history⟩ := state
  cases worker with
  | topics looping => exact first
  | compare looping taken =>
      simp only [State.work] at first
      split at first
      · simp at first
      · exact first
  | reconcile looping taken =>
      simp only [State.work, succeeds world taken, ↓reduceIte] at first
      exact first
  | record looping taken => simp [State.work] at first
  | wait =>
      simp only [State.work] at first
      split at first <;> cases first
  | settle | invalidate | reap => cases first

theorem fresh_work (succeeds : ∀ world topics, (callbacks.reconcileTopics world topics).2 = true)
    (fresh : Fresh callbacks state) (notWait : state.worker ≠ .wait) :
    Fresh callbacks (state.work callbacks) := by
  have stays : (state.work callbacks).worker.first = true → state.worker.first = true := first_work succeeds
  obtain ⟨world, manager, worker, history⟩ := state
  cases worker with
  | topics | compare | record | settle | invalidate =>
      exact ⟨fun first => fresh.first (stays first), fresh.topics, fresh.services,
        fun woken => work_holds succeeds (· ∈ history.topics) (· ∈ history.services) (by simp)
          (fresh.topics woken) (fresh.holds woken)⟩
  | reconcile looping taken =>
      have entered := fresh.enter (callbacks.reconcileTopics world taken).1
      exact ⟨fun first => fresh.first (stays first), entered.topics, entered.services,
        fun woken => work_holds succeeds _ _ (by simp)
          (List.mem_cons_of_mem _ (fresh.topics woken)) (entered.holds woken)⟩
  | wait => exact absurd rfl notWait
  | reap =>
      have entered := fresh.enter (callbacks.reapExpiredSubscriptions world)
      exact ⟨fun first => absurd first Bool.false_ne_true, entered.topics, entered.services, entered.holds⟩

theorem fresh_step (succeeds : ∀ world topics, (callbacks.reconcileTopics world topics).2 = true)
    (fresh : Fresh callbacks state) (caughtUp : CaughtUp callbacks state) {label : Label Change}
    (unmissed : NothingMissed state label) : Fresh callbacks (state.step callbacks label) := by
  cases label with
  | graphEvent => exact fresh.with_manager (fun _ cached => cached) rfl
  | changed change notified =>
      have entered := fresh.enter (callbacks.change state.world change)
      cases notified with
      | true => exact entered.with_manager (fun _ cached => cached) rfl
      | false => exact entered
  | readTopics => exact fresh.with_manager (fun woken cached => cached.readTopics (fresh.topics woken)) rfl
  | readServices =>
      exact fresh.with_manager (fun woken cached => cached.readServices (fresh.services woken)) rfl
  | work =>
      by_cases waiting : state.worker = .wait
      · exact fresh_wake fresh caughtUp waiting (unmissed rfl waiting)
      · exact fresh_work succeeds fresh waiting

end Step

section Run

theorem caughtUp_initial (callbacks : Callbacks World Change Topics Services) (world : World) :
    CaughtUp callbacks (initial world) :=
  fun _ _ => GraphManager.invalidate_cached {} _ _

theorem fresh_initial (callbacks : Callbacks World Change Topics Services) (world : World) :
    Fresh callbacks (initial world) := by
  constructor
  · intro _
    rfl
  all_goals
    intro woken
    cases woken

variable [DecidableEq Topics] [DecidableEq Services]
  {callbacks : Callbacks World Change Topics Services} {world : World}
  {state : State World Topics Services}

theorem caughtUp_of_run {permitted : State World Topics Services → Label Change → Prop}
    (succeeds : ∀ world topics, (callbacks.reconcileTopics world topics).2 = true)
    (run : (machine callbacks).Run permitted (initial world) state) : CaughtUp callbacks state := by
  apply run.invariant (caughtUp_initial callbacks world)
  intro state next label inv _ stepped
  cases stepped
  exact caughtUp_step succeeds inv label

theorem fresh_of_run (succeeds : ∀ world topics, (callbacks.reconcileTopics world topics).2 = true)
    (run : (machine callbacks).Run NothingMissed (initial world) state) : Fresh callbacks state := by
  apply run.invariant_with (caughtUp_of_run succeeds) (fresh_initial callbacks world)
  intro state next label caughtUp fresh unmissed stepped
  cases stepped
  exact fresh_step succeeds fresh caughtUp unmissed

/-- After every wake-up the worker has applied, and readers get, a graph from after it, in
every run in which no change has been missed when the worker wakes up by timeout. -/
theorem snapshots_refreshed (callbacks : Callbacks World Change Topics Services)
    (succeeds : ∀ world topics, (callbacks.reconcileTopics world topics).2 = true)
    (world : World) (state : State World Topics Services)
    (run : (machine callbacks).Run NothingMissed (initial world) state)
    (waiting : state.worker = .wait) (woken : 0 < state.history.wakeups) : Refreshed callbacks state := by
  have fresh := fresh_of_run succeeds run
  have holds := fresh.holds woken
  rw [waiting] at holds
  obtain ⟨cached, applied, last, seen⟩ := holds
  exact ⟨⟨applied, seen, last⟩, GraphManager.topicSnapshot_of_cached cached (fresh.topics woken),
    GraphManager.serviceSnapshot_of_cached cached (fresh.services woken)⟩

end Run

/-- A graph of which only the names of the topics and of the services are kept, and
callbacks that leave it alone. -/
def namesOnly : Callbacks (List String × List String) (List String × List String) (List String)
    (List String) where
  getTopicNamesAndTypes := Prod.fst
  getServiceNamesAndTypes := Prod.snd
  reconcileTopics graph _ := (graph, true)
  reapExpiredSubscriptions := id
  change _ graph := graph

/-- The pass before the loop, which applies a snapshot. -/
def firstPass : List (Label (List String × List String)) := List.replicate 4 .work

theorem snapshots_refreshed_after_event :
    ∃ state, (machine namesOnly).Run NothingMissed (initial ([], [])) state ∧
      state.manager.lastReconciledTopics = some ["/camera"] ∧ Refreshed namesOnly state := by
  obtain ⟨state, run, waiting, woken, applied⟩ := Machine.Run.exists_of_exec (machine namesOnly)
    NothingMissed (initial ([], []))
    (firstPass ++ [.changed (["/camera"], []) true] ++ List.replicate 8 .work ++ [.work, .work])
    (fun state => state.worker = .wait ∧ 0 < state.history.wakeups ∧
      state.manager.lastReconciledTopics = some ["/camera"]) (by decide +kernel)
  exact ⟨state, run, applied,
    snapshots_refreshed namesOnly (fun _ _ => rfl) ([], []) state run waiting woken⟩

/-- A topic appears without a graph event, and the worker wakes up by timeout. -/
theorem snapshots_stale_after_timeout :
    ∃ state, (machine namesOnly).Reaches (initial ([], [])) state ∧ state.worker = .wait ∧
      0 < state.history.wakeups ∧ ¬ Refreshed namesOnly state := by
  obtain ⟨state, run, waiting, woken, applied, seen⟩ := Machine.Reaches.exists_of_exec
    (machine namesOnly) (initial ([], []))
    (firstPass ++ [.changed (["/camera"], []) false, .work, .work])
    (fun state => state.worker = .wait ∧ 0 < state.history.wakeups ∧
      state.manager.lastReconciledTopics = some [] ∧ [] ∉ state.history.topics) (by decide +kernel)
  refine ⟨state, run, waiting, woken, ?_⟩
  intro refreshed
  obtain ⟨topics, listed, last⟩ := refreshed.applied
  rw [applied] at last
  cases last
  exact seen listed

end RosPortal.Discovery
