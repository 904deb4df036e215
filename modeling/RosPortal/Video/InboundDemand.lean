import RosPortal.Interleaving.Mutex

/-! The pausing of an inbound video track: any number of threads in `updateDemand`, while the
subscribers of the ROS topic come and go. -/

set_option autoImplicit false

namespace RosPortal.Video.Demand

open Interleaving

/-- `granted` are the calls of `set_enabled` that succeeded, the last first, and `settled` counts the
calls of `updateDemand` that returned without a failure of it. -/
structure Shared where
  subscriptionCount : Nat := 0
  paused : Bool := false
  locked : Bool := false
  granted : List Bool := []
  settled : Nat := 0
deriving DecidableEq, Repr

inductive Control where
  | idle
  | counted (wanted : Bool)
  | deciding (wanted : Bool)
  | asking (wanted : Bool)
  | storing (wanted : Bool)
deriving DecidableEq, Repr

/-- A thread that is in no call may also stand for the graph, which changes the count. -/
inductive Choice where
  | subscriptions (count : Nat)
  | updateDemand
  | proceed
  | setEnabled (succeeded : Bool)
deriving DecidableEq, Repr

def advance (shared : Shared) : Control → Choice → Option (Shared × Control)
  | .idle, .subscriptions count => some ({ shared with subscriptionCount := count }, .idle)
  | .idle, .updateDemand => some (shared, .counted (decide (0 < shared.subscriptionCount)))
  | .counted wanted, .proceed =>
      if shared.locked then none else some ({ shared with locked := true }, .deciding wanted)
  | .deciding wanted, .proceed =>
      if wanted ≠ shared.paused then
        some ({ shared with locked := false, settled := shared.settled + 1 }, .idle)
      else some (shared, .asking wanted)
  | .asking wanted, .setEnabled succeeded =>
      if succeeded then some ({ shared with granted := wanted :: shared.granted }, .storing wanted)
      else some ({ shared with locked := false }, .idle)
  | .storing wanted, .proceed =>
      some ({ shared with paused := !wanted, locked := false, settled := shared.settled + 1 }, .idle)
  | _, _ => none

def demand : Program Shared Control Choice := ⟨advance⟩

abbrev Config : Type := Pool Shared Control

def initial (subscriptionCount threads : Nat) : Config :=
  ⟨{ subscriptionCount }, List.replicate threads .idle⟩

/-- Whether the server forwards the track: what the last request that succeeded asked for. -/
def Shared.enabled (shared : Shared) : Bool := shared.granted.head?.getD true

def Control.inside : Control → Bool
  | .deciding _ | .asking _ | .storing _ => true
  | .idle | .counted _ => false

/-- A call in progress has seen that this is wanted. -/
def Control.Saw (wanted : Bool) : Control → Prop
  | .idle => True
  | .counted seen | .deciding seen | .asking seen | .storing seen => seen = wanted

theorem demand_guards : demand.Guards Shared.locked Control.inside := by
  constructor
  · intro shared shared' before after choice advanced outside entered
    revert advanced
    change advance shared before choice = _ → _
    fun_cases advance shared before choice <;> intro advanced <;> cases advanced <;>
      simp_all [Control.inside]
  · intro shared shared' before after choice advanced same
    revert advanced
    change advance shared before choice = _ → _
    fun_cases advance shared before choice <;> intro advanced <;> cases advanced <;>
      simp_all [Control.inside]

/-- Pauses and resumptions take turns, a pause being the first. -/
def Alternating : List Bool → Prop
  | [] => True
  | wanted :: granted => wanted = !(granted.head?.getD true) ∧ Alternating granted

/-- A thread inside the mutex knows the flag, and the flag and the server agree until a request has
succeeded that is not stored yet. -/
def Control.Coherent (shared : Shared) : Control → Prop
  | .idle | .counted _ => True
  | .deciding _ => shared.paused = !shared.enabled
  | .asking wanted => shared.paused = wanted ∧ shared.paused = !shared.enabled
  | .storing wanted => shared.paused = wanted ∧ shared.enabled = wanted

structure Agreement (config : Config) : Prop where
  alternating : Alternating config.shared.granted
  threads : ∀ control ∈ config.threads, control.Coherent config.shared
  free : config.shared.locked = false → config.shared.paused = !config.shared.enabled
  held : config.shared.locked = true → config.Somewhere Control.inside

section Step

variable {shared shared' : Shared} {before after : Control} {choice : Choice}

theorem advance_outside (advanced : advance shared before choice = some (shared', after))
    (outside : before.inside = false) : shared'.paused = shared.paused ∧ shared'.granted = shared.granted := by
  revert advanced
  fun_cases advance shared before choice <;> intro advanced <;> cases advanced
  all_goals first
    | exact ⟨rfl, rfl⟩
    | cases outside

theorem Control.Coherent.congr {control : Control} (coherent : control.Coherent shared)
    (paused : shared'.paused = shared.paused) (granted : shared'.granted = shared.granted) :
    control.Coherent shared' := by
  cases control with
  | idle | counted => trivial
  | deciding | asking | storing => simpa [Control.Coherent, Shared.enabled, paused, granted] using coherent

/-- What a thread leaves behind when it moves. -/
theorem advance_agrees (advanced : advance shared before choice = some (shared', after))
    (alternating : Alternating shared.granted) (coherent : before.Coherent shared)
    (free : shared.locked = false → shared.paused = !shared.enabled)
    (held : before.inside = true → shared.locked = true) :
    Alternating shared'.granted ∧ after.Coherent shared' ∧
      (shared'.locked = false → shared'.paused = !shared'.enabled) := by
  revert advanced
  fun_cases advance shared before choice <;> intro advanced <;> cases advanced
  all_goals grind [Control.Coherent, Shared.enabled, Alternating, Control.inside]

theorem advance_held (advanced : advance shared before choice = some (shared', after)) :
    (before.inside = false → after.inside = false → shared'.locked = shared.locked) ∧
      (shared'.locked = true → before.inside = true → after.inside = true) := by
  revert advanced
  fun_cases advance shared before choice <;> intro advanced <;> cases advanced
  all_goals simp_all [Control.inside]

end Step

theorem agreement_initial (subscriptionCount threads : Nat) : Agreement (initial subscriptionCount threads) := by
  refine ⟨trivial, ?_, fun _ => rfl, nofun⟩
  intro control member
  rw [List.eq_of_mem_replicate member]
  trivial

theorem agreement_step {config next : Config} {label : Nat × Choice} (agreement : Agreement config)
    (exclusive : config.Exclusive Shared.locked Control.inside)
    (stepped : demand.machine.step? config label = some next) : Agreement next := by
  obtain ⟨before, after, step⟩ := Program.stepOf stepped
  have running := agreement.threads before (List.mem_of_getElem? step.running)
  obtain ⟨alternating, arrived, free⟩ := advance_agrees step.advanced agreement.alternating running agreement.free
    (exclusive.held step.running)
  obtain ⟨outsideLocked, insideLocked⟩ := advance_held step.advanced
  refine ⟨alternating, ?_, free, ?_⟩
  · intro control member
    obtain ⟨other, found⟩ := List.mem_iff_getElem?.mp member
    rcases step.thread_cases found with ⟨_, rfl⟩ | ⟨different, earlier⟩
    · exact arrived
    · have coherent := agreement.threads control (List.mem_of_getElem? earlier)
      cases was : before.inside with
      | false =>
          obtain ⟨paused, granted⟩ := advance_outside step.advanced was
          exact coherent.congr paused granted
      | true =>
          -- no thread but the one that moves is inside
          cases entered : control.inside with
          | true => exact absurd (exclusive.alone earlier step.running entered was) different
          | false =>
              cases control with
              | idle | counted => trivial
              | deciding | asking | storing => cases entered
  · intro locked
    cases was : before.inside with
    | true => exact step.somewhere_arrived (insideLocked locked was)
    | false =>
        cases arrives : after.inside with
        | true => exact step.somewhere_arrived arrives
        | false =>
            rw [outsideLocked was arrives] at locked
            exact step.somewhere_kept (agreement.held locked) fun inside => by simp [was] at inside

theorem agreement_of_run {subscriptionCount threads : Nat} {config : Config}
    (run : demand.machine.Reaches (initial subscriptionCount threads) config) : Agreement config := by
  have outside : (initial subscriptionCount threads).Nowhere Control.inside := by
    intro control member
    rw [List.eq_of_mem_replicate member]
    rfl
  induction run with
  | refl => exact agreement_initial subscriptionCount threads
  | step earlier _ stepped ih => exact agreement_step ih (demand_guards.exclusive outside earlier) stepped

/-- In every run the requests that the server grants are a pause, a resumption, a pause and so on, and
the flag says what the last of them asked for unless a thread has still to store it. -/
theorem paused_iff_disabled (subscriptionCount threads : Nat) (config : Config)
    (run : demand.machine.Reaches (initial subscriptionCount threads) config) :
    Alternating config.shared.granted ∧
      ((∀ wanted, .storing wanted ∉ config.threads) → config.shared.paused = !config.shared.enabled) := by
  have agreement := agreement_of_run run
  refine ⟨agreement.alternating, fun stored => ?_⟩
  cases locked : config.shared.locked with
  | false => exact agreement.free locked
  | true =>
      obtain ⟨control, member, inside⟩ := agreement.held locked
      have coherent := agreement.threads control member
      cases control with
      | idle | counted => cases inside
      | deciding => exact coherent
      | asking => exact coherent.2
      | storing wanted => exact absurd member (stored wanted)

def callOnce (thread : Nat) (succeeded : Bool) : List (Nat × Choice) :=
  [(thread, .updateDemand), (thread, .proceed), (thread, .proceed), (thread, .setEnabled succeeded)]

/-- One thread pauses the track that nobody watches, and another one resumes it. -/
theorem paused_and_resumed :
    ∃ config, demand.machine.Reaches (initial 0 2) config ∧ config.shared.granted = [true, false] ∧
      config.shared.paused = !config.shared.enabled := by
  obtain ⟨config, run, granted, idle⟩ := Machine.Reaches.exists_of_exec demand.machine (initial 0 2)
    (callOnce 0 true ++ [(0, .proceed), (0, .subscriptions 1)] ++ callOnce 1 true ++ [(1, .proceed)])
    (fun config => config.shared.granted = [true, false] ∧ config.threads = [.idle, .idle]) (by decide +kernel)
  refine ⟨config, run, granted, (paused_iff_disabled 0 2 config run).2 ?_⟩
  intro wanted
  simp [idle]

section Convergence

/-- Whether there is a subscriber does not change. -/
def Steady (wanted : Bool) (_ : Config) (label : Nat × Choice) : Prop :=
  ∀ count, label.2 = .subscriptions count → decide (0 < count) = wanted

instance (wanted : Bool) (config : Config) (label : Nat × Choice) : Decidable (Steady wanted config label) :=
  match found : label.2 with
  | .subscriptions count => decidable_of_iff (decide (0 < count) = wanted) (by simp [Steady, found])
  | .updateDemand | .proceed | .setEnabled _ => .isTrue (by simp [Steady, found])

/-- Every call in progress has seen what is wanted, and one that has returned has seen to it. -/
structure Settling (wanted : Bool) (settled : Nat) (config : Config) : Prop where
  count : decide (0 < config.shared.subscriptionCount) = wanted
  threads : ∀ control ∈ config.threads, control.Saw wanted
  returned : settled ≤ config.shared.settled
  flag : settled < config.shared.settled → config.shared.paused = !wanted

theorem advance_settles {shared shared' : Shared} {before after : Control} {choice : Choice} {wanted : Bool}
    (advanced : advance shared before choice = some (shared', after))
    (steady : ∀ count, choice = .subscriptions count → decide (0 < count) = wanted)
    (count : decide (0 < shared.subscriptionCount) = wanted)
    (saw : before.Saw wanted) :
    decide (0 < shared'.subscriptionCount) = wanted ∧ after.Saw wanted ∧
      (shared'.settled = shared.settled ∧ shared'.paused = shared.paused ∨
        shared.settled < shared'.settled ∧ shared'.paused = !wanted) := by
  revert advanced
  fun_cases advance shared before choice <;> intro advanced <;> cases advanced
  all_goals grind [Control.Saw]

theorem settling_step {wanted : Bool} {settled : Nat} {config next : Config} {label : Nat × Choice}
    (settling : Settling wanted settled config) (steady : Steady wanted config label)
    (stepped : demand.machine.step? config label = some next) : Settling wanted settled next := by
  obtain ⟨before, after, step⟩ := Program.stepOf stepped
  obtain ⟨count, saw, moved⟩ := advance_settles step.advanced steady settling.count
    (settling.threads before (List.mem_of_getElem? step.running))
  refine ⟨count, ?_, ?_, ?_⟩
  · intro control member
    obtain ⟨other, found⟩ := List.mem_iff_getElem?.mp member
    rcases step.thread_cases found with ⟨_, rfl⟩ | ⟨_, earlier⟩
    · exact saw
    · exact settling.threads control (List.mem_of_getElem? earlier)
  · have returned := settling.returned
    rcases moved with ⟨same, _⟩ | ⟨more, _⟩ <;> omega
  · intro later
    rcases moved with ⟨same, kept⟩ | ⟨_, set⟩
    · rw [kept]
      exact settling.flag (same ▸ later)
    · exact set

/-- Once it is settled whether there is a subscriber and no call has seen it otherwise, the next call
that returns without a failure leaves the track paused or not as that demands, and so it stays. -/
theorem demand_met (subscriptionCount threads : Nat) (wanted : Bool) (start config : Config)
    (reached : demand.machine.Reaches (initial subscriptionCount threads) start)
    (count : decide (0 < start.shared.subscriptionCount) = wanted)
    (seen : ∀ control ∈ start.threads, control.Saw wanted)
    (run : demand.machine.Run (Steady wanted) start config)
    (returned : start.shared.settled < config.shared.settled) :
    config.shared.paused = !wanted ∧ config.shared.enabled = wanted := by
  have settling : Settling wanted start.shared.settled config :=
    run.invariant ⟨count, seen, Nat.le_refl _, fun later => absurd later (Nat.lt_irrefl _)⟩ settling_step
  have paused := settling.flag returned
  refine ⟨paused, ?_⟩
  have agreement := agreement_of_run (reached.trans run.reaches)
  cases locked : config.shared.locked with
  | false => simpa [paused] using (agreement.free locked).symm
  | true =>
      obtain ⟨control, member, inside⟩ := agreement.held locked
      have coherent := agreement.threads control member
      have saw := settling.threads control member
      cases control with
      | idle | counted => cases inside
      | deciding => simpa [Control.Coherent, paused] using coherent.symm
      | asking => simpa [paused] using coherent.2.symm
      | storing found =>
          -- its request would have been made with the flag as it was before the last return
          have same : found = wanted := saw
          have stale := coherent.1
          rw [paused, same] at stale
          simp at stale

def watched : Config := ⟨{ subscriptionCount := 1 }, [.idle]⟩

/-- The subscriber has come while a request to pause failed; the next call leaves the track enabled. -/
theorem demand_met_after_failure :
    ∃ config, demand.machine.Run (Steady true) watched config ∧ config.shared.settled = 1 ∧
      config.shared.paused = !true ∧ config.shared.enabled = true := by
  obtain ⟨start, reached, rfl⟩ := Machine.Reaches.exists_of_exec demand.machine (initial 0 1)
    (callOnce 0 false ++ [(0, .subscriptions 1)]) (fun config => config = watched) (by decide +kernel)
  obtain ⟨config, run, returned⟩ := Machine.Run.exists_of_exec demand.machine (Steady true) watched
    [(0, .updateDemand), (0, .proceed), (0, .proceed)] (fun config => config.shared.settled = 1) (by decide +kernel)
  refine ⟨config, run, returned, demand_met 0 1 true watched config reached (by decide) ?_ run ?_⟩
  · simp [watched, Control.Saw]
  · rw [returned]
    decide

end Convergence

end RosPortal.Video.Demand
