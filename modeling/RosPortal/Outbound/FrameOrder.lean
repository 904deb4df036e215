import RosPortal.Interleaving.ThreadPool
import RosPortal.Outbound.DataTopic

/-! Concurrent executions of the callback of one outbound data subscription. Samples are
admitted one at a time under the lock, and converted and pushed after it is released. -/

set_option autoImplicit false

namespace RosPortal.Outbound

open Interleaving Schema

namespace Callback

/-- The entry of the topic in `data_topic_states_`. How many samples were admitted, and the
calls of `try_push` with the writer and the number of the sample, newest first, are
recorded; no step reads them. -/
structure Shared where
  state : Option DataTopicState
  admitted : Nat := 0
  pushes : List (Nat × Nat) := []
deriving DecidableEq, Repr

inductive Control where
  | idle
  | received
  | unlocked (writer sequence : Nat) (encoding : OutboundEncoding)
  | pushing (writer sequence : Nat)
deriving DecidableEq, Repr

/-- What an execution finds: whether the sample is to be forwarded, the time and the
outcome of publishing in the critical section, whether JSON conversion succeeds, or that
`try_push` returns. `reap` is a thread that erases the topic. -/
inductive Choice where
  | receive (forwarded : Bool)
  | enter (now : Int) (attempt : WriterAttempt)
  | push (converts : Bool)
  | returned
  | reap
deriving DecidableEq, Repr

def section? (shared : Shared) (state : DataTopicState) : Admission → Shared × Control
  | .admitted writer encoding =>
      ({ shared with state := some state, admitted := shared.admitted + 1 },
        .unlocked writer shared.admitted encoding)
  | .capped | .unwritable => ({ shared with state := some state }, .idle)

def advance (shared : Shared) : Control → Choice → Option (Shared × Control)
  | .idle, .receive forwarded => some (shared, if forwarded then .received else .idle)
  | .idle, .reap => some ({ shared with state := none }, .idle)
  | .received, .enter now attempt =>
      match shared.state with
      | none => some (shared, .idle)
      | some state => some (section? shared (state.enter now attempt).1 (state.enter now attempt).2)
  | .unlocked writer sequence encoding, .push converts =>
      if encoding = .jsonSchema && !converts then some (shared, .idle)
      else some ({ shared with pushes := (writer, sequence) :: shared.pushes }, .pushing writer sequence)
  | .pushing _ _, .returned => some (shared, .idle)
  | _, _ => none

def program : Program Shared Control Choice := ⟨advance⟩

abbrev Config : Type := Pool Shared Control

def initial (state : DataTopicState) (threads : Nat) : Config :=
  ⟨{ state := some state }, List.replicate threads .idle⟩

/-- The writer and the number of an admitted sample that is not through yet. -/
def Control.frame : Control → Option (Nat × Nat)
  | .unlocked writer sequence _ | .pushing writer sequence => some (writer, sequence)
  | .idle | .received => none

def Control.waits : Control → Option (Nat × Nat)
  | .unlocked writer sequence _ => some (writer, sequence)
  | _ => none

def Control.pushes : Control → Option Nat
  | .pushing writer _ => some writer
  | _ => none

/-- The pushes to each writer are in the order of admission, and none overlap. -/
structure InOrder (config : Config) : Prop where
  ordered : config.shared.pushes.Pairwise fun later earlier => later.1 = earlier.1 → earlier.2 < later.2
  alone : ∀ (first second writer : Nat) (one other : Control),
    config.threads[first]? = some one → config.threads[second]? = some other →
      one.pushes = some writer → other.pushes = some writer → first = second

/-- Whether a push may begin beside a thread at that point: it is neither pushing to the
writer nor on its way to it with an earlier sample. -/
def Control.givesWay (writer sequence : Nat) : Control → Bool
  | .unlocked other earlier _ => other ≠ writer || sequence ≤ earlier
  | .pushing other _ => other ≠ writer
  | .idle | .received => true

/-- No sample is pushed before those to its writer that were admitted earlier are through. -/
def InTurn (config : Config) (label : Nat × Choice) : Prop :=
  ∀ control ∈ config.threads[label.1]?, ∀ frame ∈ control.waits,
    ∀ other ∈ config.threads, other.givesWay frame.1 frame.2 = true

instance (config : Config) (label : Nat × Choice) : Decidable (InTurn config label) :=
  inferInstanceAs (Decidable (∀ control ∈ config.threads[label.1]?, ∀ frame ∈ control.waits, _))

section Steps

inductive Transition : Shared → Control → Shared → Control → Prop where
  | elsewhere {shared : Shared} {state : Option DataTopicState} {before after : Control} :
      before.frame = none → after.frame = none → Transition shared before { shared with state } after
  | admitted {shared : Shared} {state : Option DataTopicState} {writer : Nat} {encoding : OutboundEncoding} :
      Transition shared .received { shared with state, admitted := shared.admitted + 1 }
        (.unlocked writer shared.admitted encoding)
  | dropped {shared : Shared} {before : Control} : Transition shared before shared .idle
  | begun {shared : Shared} {writer sequence : Nat} {encoding : OutboundEncoding} :
      Transition shared (.unlocked writer sequence encoding)
        { shared with pushes := (writer, sequence) :: shared.pushes } (.pushing writer sequence)

theorem advance_transition {shared shared' : Shared} {before after : Control} {choice : Choice}
    (advanced : advance shared before choice = some (shared', after)) :
    Transition shared before shared' after := by
  cases before with
  | idle =>
      cases choice with
      | receive forwarded =>
          cases advanced
          refine .elsewhere rfl ?_
          cases forwarded <;> rfl
      | reap =>
          cases advanced
          exact .elsewhere rfl rfl
      | enter _ _ | push _ | returned => cases advanced
  | received =>
      cases choice with
      | enter now attempt =>
          simp only [advance] at advanced
          split at advanced
          · cases advanced
            exact .dropped
          next state known =>
            cases outcome : (state.enter now attempt).2 with
            | admitted writer encoding =>
                rw [outcome] at advanced
                cases advanced
                exact .admitted
            | capped | unwritable =>
                rw [outcome] at advanced
                cases advanced
                exact .elsewhere rfl rfl
      | receive _ | push _ | returned | reap => cases advanced
  | unlocked writer sequence encoding =>
      cases choice with
      | push converts =>
          simp only [advance] at advanced
          split_ifs at advanced
          · cases advanced
            exact .dropped
          · cases advanced
            exact .begun
      | receive _ | enter _ _ | returned | reap => cases advanced
  | pushing writer sequence =>
      cases choice with
      | returned =>
          cases advanced
          exact .dropped
      | receive _ | enter _ _ | push _ | reap => cases advanced

end Steps

section Invariant

/-- Each admitted sample has a number of its own, and a sample that waits comes after all
that were pushed to its writer. -/
structure Turns (config : Config) : Prop where
  counted : ∀ (thread : Nat) (control : Control) (frame : Nat × Nat),
    config.threads[thread]? = some control → control.frame = some frame → frame.2 < config.shared.admitted
  distinct : ∀ (first second : Nat) (one other : Control) (frame frame' : Nat × Nat),
    config.threads[first]? = some one → config.threads[second]? = some other →
      one.frame = some frame → other.frame = some frame' → frame.2 = frame'.2 → first = second
  pushed : ∀ push ∈ config.shared.pushes, push.2 < config.shared.admitted
  ahead : ∀ (thread : Nat) (control : Control) (frame : Nat × Nat),
    config.threads[thread]? = some control → control.waits = some frame →
      ∀ push ∈ config.shared.pushes, push.1 = frame.1 → push.2 < frame.2
  inOrder : InOrder config

theorem initial_thread {state : DataTopicState} {threads thread : Nat} {control : Control}
    (found : (initial state threads).threads[thread]? = some control) : control = .idle :=
  List.eq_of_mem_replicate (List.mem_of_getElem? found)

theorem turns_initial (state : DataTopicState) (threads : Nat) : Turns (initial state threads) where
  counted thread control frame found framed := by
    rw [initial_thread found] at framed
    cases framed
  distinct first second one other frame frame' found _ framed _ _ := by
    rw [initial_thread found] at framed
    cases framed
  pushed := nofun
  ahead thread control frame found waiting := by
    rw [initial_thread found] at waiting
    cases waiting
  inOrder :=
    { ordered := .nil
      alone := by
        intro first second writer one other found _ pushing
        rw [initial_thread found] at pushing
        cases pushing }

theorem frame_of_waits {control : Control} {frame : Nat × Nat} (waiting : control.waits = some frame) :
    control.frame = some frame := by
  cases control with
  | unlocked writer sequence encoding => exact waiting
  | idle | received | pushing _ _ => cases waiting

theorem pushes_of_no_frame {control : Control} (without : control.frame = none) : control.pushes = none := by
  cases control with
  | idle | received => rfl
  | unlocked _ _ _ | pushing _ _ => cases without

section Step

variable {config next : Config} {thread : Nat} {choice : Choice} {before after : Control}

theorem earlier_of_frame (step : program.StepOf config thread choice next before after)
    (without : after.frame = none) {other : Nat} {control : Control}
    (found : next.threads[other]? = some control) (framed : control.frame ≠ none) :
    config.threads[other]? = some control := by
  rcases step.thread_cases found with ⟨_, rfl⟩ | ⟨_, earlier⟩
  · exact absurd without framed
  · exact earlier

/-- An execution that returns, or is not admitted, keeps all others in turn. -/
theorem Turns.leave (turns : Turns config) (step : program.StepOf config thread choice next before after)
    (counter : next.shared.admitted = config.shared.admitted)
    (same : next.shared.pushes = config.shared.pushes) (without : after.frame = none) : Turns next where
  counted other control frame found framed := by
    rw [counter]
    exact turns.counted other control frame (earlier_of_frame step without found (by simp [framed])) framed
  distinct first second one other frame frame' found found' framed framed' equal :=
    turns.distinct first second one other frame frame'
      (earlier_of_frame step without found (by simp [framed]))
      (earlier_of_frame step without found' (by simp [framed'])) framed framed' equal
  pushed push member := by
    rw [same] at member
    rw [counter]
    exact turns.pushed push member
  ahead other control frame found waiting push member := by
    rw [same] at member
    have framed := frame_of_waits waiting
    exact turns.ahead other control frame (earlier_of_frame step without found (by simp [framed])) waiting
      push member
  inOrder :=
    { ordered := by
        rw [same]
        exact turns.inOrder.ordered
      alone := by
        intro first second writer one other found found' pushing pushing'
        refine turns.inOrder.alone first second writer one other ?_ ?_ pushing pushing'
        · refine earlier_of_frame step without found fun none => ?_
          rw [pushes_of_no_frame none] at pushing
          cases pushing
        · refine earlier_of_frame step without found' fun none => ?_
          rw [pushes_of_no_frame none] at pushing'
          cases pushing' }

/-- A sample that is admitted comes after all that were admitted before. -/
theorem Turns.enter (turns : Turns config) {writer : Nat} {encoding : OutboundEncoding}
    (step : program.StepOf config thread choice next before
      (.unlocked writer config.shared.admitted encoding))
    (counter : next.shared.admitted = config.shared.admitted + 1)
    (same : next.shared.pushes = config.shared.pushes) : Turns next where
  counted other control frame found framed := by
    rw [counter]
    rcases step.thread_cases found with ⟨_, rfl⟩ | ⟨_, earlier⟩
    · cases framed
      exact Nat.lt_succ_self _
    · exact Nat.lt_succ_of_lt (turns.counted other control frame earlier framed)
  distinct first second one other frame frame' found found' framed framed' equal := by
    rcases step.thread_cases found with ⟨here, rfl⟩ | ⟨_, earlier⟩
    · rcases step.thread_cases found' with ⟨here', _⟩ | ⟨_, earlier'⟩
      · rw [here, here']
      · cases framed
        exact absurd equal (Nat.ne_of_gt (turns.counted second other frame' earlier' framed'))
    · rcases step.thread_cases found' with ⟨_, rfl⟩ | ⟨_, earlier'⟩
      · cases framed'
        exact absurd equal (Nat.ne_of_lt (turns.counted first one frame earlier framed))
      · exact turns.distinct first second one other frame frame' earlier earlier' framed framed' equal
  pushed push member := by
    rw [same] at member
    rw [counter]
    exact Nat.lt_succ_of_lt (turns.pushed push member)
  ahead other control frame found waiting push member writers := by
    rw [same] at member
    rcases step.thread_cases found with ⟨_, rfl⟩ | ⟨_, earlier⟩
    · cases waiting
      exact turns.pushed push member
    · exact turns.ahead other control frame earlier waiting push member writers
  inOrder :=
    { ordered := by
        rw [same]
        exact turns.inOrder.ordered
      alone := by
        intro first second shared one other found found' pushing pushing'
        rcases step.thread_cases found with ⟨_, rfl⟩ | ⟨_, earlier⟩
        · cases pushing
        · rcases step.thread_cases found' with ⟨_, rfl⟩ | ⟨_, earlier'⟩
          · cases pushing'
          · exact turns.inOrder.alone first second shared one other earlier earlier' pushing pushing' }

/-- The sample that is pushed in its turn precedes all that wait for its writer. -/
theorem Turns.begin (turns : Turns config) {writer sequence : Nat} {encoding : OutboundEncoding}
    (step : program.StepOf config thread choice next (.unlocked writer sequence encoding)
      (.pushing writer sequence))
    (counter : next.shared.admitted = config.shared.admitted)
    (pushes : next.shared.pushes = (writer, sequence) :: config.shared.pushes)
    (inTurn : ∀ other ∈ config.threads, other.givesWay writer sequence = true) : Turns next where
  counted other control frame found framed := by
    rw [counter]
    rcases step.thread_cases found with ⟨_, rfl⟩ | ⟨_, earlier⟩
    · exact turns.counted thread _ frame step.running framed
    · exact turns.counted other control frame earlier framed
  distinct first second one other frame frame' found found' framed framed' equal := by
    rcases step.thread_cases found with ⟨here, rfl⟩ | ⟨_, earlier⟩
    · rcases step.thread_cases found' with ⟨here', _⟩ | ⟨_, earlier'⟩
      · rw [here, here']
      · rw [here]
        exact turns.distinct thread second _ other frame frame' step.running earlier' framed framed' equal
    · rcases step.thread_cases found' with ⟨here', rfl⟩ | ⟨_, earlier'⟩
      · rw [here']
        exact turns.distinct first thread one _ frame frame' earlier step.running framed framed' equal
      · exact turns.distinct first second one other frame frame' earlier earlier' framed framed' equal
  pushed push member := by
    rw [pushes, List.mem_cons] at member
    rw [counter]
    rcases member with rfl | member
    · exact turns.counted thread _ (writer, sequence) step.running rfl
    · exact turns.pushed push member
  ahead other control frame found waiting push member writers := by
    rw [pushes, List.mem_cons] at member
    rcases step.thread_cases found with ⟨_, rfl⟩ | ⟨apart, earlier⟩
    · cases waiting
    · rcases member with rfl | member
      · -- the other sample waits for the same writer, so it is a later one
        cases control with
        | unlocked waiter later _ =>
            cases waiting
            cases writers
            have way := inTurn _ (List.mem_of_getElem? earlier)
            simp only [Control.givesWay, ne_eq, not_true_eq_false, decide_false, Bool.false_or,
              decide_eq_true_eq] at way
            refine Nat.lt_of_le_of_ne way fun equal => apart ?_
            exact turns.distinct other thread _ _ _ _ earlier step.running rfl rfl equal.symm
        | idle | received | pushing _ _ => cases waiting
      · exact turns.ahead other control frame earlier waiting push member writers
  inOrder :=
    { ordered := by
        rw [pushes]
        refine .cons ?_ turns.inOrder.ordered
        intro push member writers
        exact turns.ahead thread _ (writer, sequence) step.running rfl push member writers.symm
      alone := by
        -- nobody else was pushing to the writer
        have nobody : ∀ (other : Nat) (control : Control), config.threads[other]? = some control →
            control.pushes ≠ some writer := by
          intro other control found pushing
          have way := inTurn _ (List.mem_of_getElem? found)
          cases control with
          | pushing _ _ =>
              cases pushing
              simp [Control.givesWay] at way
          | idle | received | unlocked _ _ _ => cases pushing
        intro first second shared one other found found' pushing pushing'
        rcases step.thread_cases found with ⟨here, rfl⟩ | ⟨_, earlier⟩
        · cases pushing
          rcases step.thread_cases found' with ⟨here', _⟩ | ⟨_, earlier'⟩
          · rw [here, here']
          · exact absurd pushing' (nobody second other earlier')
        · rcases step.thread_cases found' with ⟨_, rfl⟩ | ⟨_, earlier'⟩
          · cases pushing'
            exact absurd pushing (nobody first one earlier)
          · exact turns.inOrder.alone first second shared one other earlier earlier' pushing pushing' }

end Step

theorem turns_step {config next : Config} {label : Nat × Choice} (turns : Turns config)
    (inTurn : InTurn config label) (stepped : program.machine.step? config label = some next) : Turns next := by
  obtain ⟨before, after, step⟩ := Program.stepOf stepped
  have transition := advance_transition step.advanced
  generalize reached : next.shared = shared' at transition
  cases transition with
  | elsewhere _ without => exact turns.leave step (by rw [reached]) (by rw [reached]) without
  | admitted => exact turns.enter step (by rw [reached]) (by rw [reached])
  | dropped => exact turns.leave step (by rw [reached]) (by rw [reached]) rfl
  | begun => exact turns.begin step (by rw [reached]) (by rw [reached]) (inTurn _ step.running _ rfl)

/-- If no push begins out of turn, the samples reach their writer in the order of their
admission, one at a time. -/
theorem inOrder_of_run {state : DataTopicState} {threads : Nat} {config : Config}
    (run : program.machine.Run InTurn (initial state threads) config) : InOrder config :=
  (run.invariant (turns_initial state threads) fun turns inTurn stepped => turns_step turns inTurn stepped).inOrder

end Invariant

section Schedules

/-- The first sample makes writer 7. -/
def makesWriter : Choice := .enter 0 ⟨true, some ⟨"std_msgs/msg/String", .ros2Msg⟩, .writer 7⟩

/-- Two samples are admitted, by thread 0 and thread 1. -/
def bothAdmitted : List (Nat × Choice) :=
  [(0, .receive true), (1, .receive true), (0, makesWriter), (1, makesWriter)]

theorem inOrder_of_patient_run :
    ∃ config, config.shared.pushes = [(7, 1), (7, 0)] ∧ InOrder config := by
  obtain ⟨config, run, pushes⟩ := Machine.Run.exists_of_exec program.machine InTurn (initial {} 2)
    (bothAdmitted ++ [(0, .push true), (0, .returned), (1, .push true)])
    (fun config => config.shared.pushes = [(7, 1), (7, 0)]) (by decide)
  exact ⟨config, pushes, inOrder_of_run run⟩

/-- The second sample is pushed while the thread of the first is held up, and the first one
only then, while the second is still being pushed. -/
theorem second_sample_pushed_first :
    ∃ config, program.machine.Reaches (initial {} 2) config ∧
      config.threads = [.pushing 7 0, .pushing 7 1] ∧ config.shared.pushes = [(7, 0), (7, 1)] ∧
        ¬ InOrder config := by
  obtain ⟨config, reached, threads, pushes⟩ := Machine.Reaches.exists_of_exec program.machine (initial {} 2)
    (bothAdmitted ++ [(1, .push true), (0, .push true)])
    (fun config => config.threads = [.pushing 7 0, .pushing 7 1] ∧ config.shared.pushes = [(7, 0), (7, 1)])
    (by decide)
  refine ⟨config, reached, threads, pushes, fun inOrder => ?_⟩
  have ordered := inOrder.ordered
  rw [pushes] at ordered
  revert ordered
  decide

end Schedules

end Callback

end RosPortal.Outbound
