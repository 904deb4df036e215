import Mathlib.Data.List.Nodup
import RosPortal.Video.SourceManager

/-! Over the life of a manager, every complete session is stopped once and unpublished once
after that, and what is done for a source and reported of it depends on that source alone. -/

set_option autoImplicit false

namespace RosPortal.Video.SourceManager

open Interleaving

section Names

theorem digits_ne_slash {index : Nat} {character : Char} (member : character ∈ Nat.toDigits 10 index) :
    (character != '/') = true := by
  have digit : character.isDigit = true := Nat.isDigit_of_mem_toDigits (by decide) (by decide) member
  rw [bne_iff_ne]
  rintro rfl
  exact absurd digit (by decide)

theorem index_of_taskName (config : VideoSourceConfig) (index : Nat) :
    (taskName config index).toList.reverse.takeWhile (· != '/') =
      (Nat.toDigits 10 index).reverse := by
  have written : (taskName config index).toList.reverse = (Nat.toDigits 10 index).reverse ++
      ('/' :: ("video_source/" ++ config.trackName).toList.reverse) := by
    unfold taskName
    rw [String.toList_append, List.reverse_append, Nat.toString_eq_repr, Nat.toList_repr,
      String.toList_append, List.reverse_append]
    rfl
  rw [written, List.takeWhile_append_of_pos]
  · simp
  · intro character member
    exact digits_ne_slash (List.mem_reverse.mp member)

theorem taskName_injective {first second : VideoSourceConfig} {index other : Nat}
    (same : taskName first index = taskName second other) : index = other := by
  have digits := index_of_taskName first index
  rw [same, index_of_taskName, List.reverse_inj] at digits
  have values := congrArg (Nat.ofDigitChars 10 · 0) digits
  simpa using values.symm

end Names

section Lifecycle

def Call.lifecycleOf (index : Nat) : Call → Bool
  | .createAndPublish other | .start other | .stop other | .unpublish other => other = index
  | .pollResult _ | .addTask _ | .removeTask _ => false

def Call.added? : Call → Option String
  | .addTask name => some name
  | _ => none

def Call.removed? : Call → Option String
  | .removeTask name => some name
  | _ => none

def Startup.complete (startup : Startup) : Bool :=
  match startup.creation with
  | .returned session => session.complete
  | _ => false

/-- Why the source does not run after construction. -/
def Startup.failure? (startup : Startup) : Option String :=
  match startup.creation with
  | .threw thrown => some (thrown.textOr "unknown error")
  | .failed error => some error
  | .absent => some "create_and_publish returned an invalid capture session"
  | .returned session =>
      if session.complete then startup.start.map (Thrown.textOr "unknown error")
      else some "create_and_publish returned an invalid capture session"

/-- What is reported of a source: why it failed, or what the polls of its session have found. -/
def reported (config : VideoSourceConfig) (startup : Startup) (polls : List Poll) : VideoSourceState :=
  let state : VideoSourceState := { trackName := config.trackName, sourceType := config.sourceType }
  match startup.failure? with
  | some error => { state with kind := .error, error }
  | none => polls.foldl VideoSourceState.poll { state with kind := .running }

def Startup.calls (startup : Startup) (index : Nat) : List Call :=
  if startup.complete then
    [.createAndPublish index, .start index] ++
      if startup.start.isSome then [.stop index, .unpublish index] else []
  else [.createAndPublish index]

theorem Startup.failure?_isNone (startup : Startup) :
    startup.failure?.isNone = (startup.complete && startup.start.isNone) := by
  unfold Startup.failure? Startup.complete
  cases startup.creation with
  | threw _ | failed _ | absent => rfl
  | returned session => cases complete : session.complete <;> simp [complete]

theorem startSource_calls (config : VideoSourceConfig) (index : Nat) (startup : Startup) :
    (startSource config index startup).2 = startup.calls index := by
  unfold startSource Startup.calls Startup.complete
  obtain ⟨creation, start, stop, unpublish⟩ := startup
  cases creation with
  | threw _ | failed _ | absent => rfl
  | returned session =>
      cases complete : session.complete with
      | false => simp [complete]
      | true =>
          cases start with
          | none => simp [complete]
          | some thrown => simp [complete, guarded]

theorem startSource_runtime (config : VideoSourceConfig) (index : Nat) (startup : Startup) :
    (startSource config index startup).1 =
      ⟨taskName config index, reported config startup [], startup.failure?.isNone⟩ := by
  unfold startSource reported Startup.failure?
  obtain ⟨creation, start, stop, unpublish⟩ := startup
  cases creation with
  | threw _ | failed _ | absent => rfl
  | returned session =>
      cases complete : session.complete with
      | false => simp [complete, VideoSourceState.markError]
      | true =>
          cases start with
          | none => simp [complete]
          | some thrown => simp [complete, VideoSourceState.markError]

theorem filter_lifecycleOf_calls (startup : Startup) (index other : Nat) :
    (startup.calls index).filter (Call.lifecycleOf other) =
      if index = other then startup.calls index else [] := by
  unfold Startup.calls
  cases startup.complete <;> cases startup.start <;> by_cases same : index = other <;>
    simp [Call.lifecycleOf, same]

theorem filterMap_task_calls (startup : Startup) (index : Nat) :
    (startup.calls index).filterMap Call.added? = [] ∧
      (startup.calls index).filterMap Call.removed? = [] := by
  unfold Startup.calls
  cases startup.complete <;> cases startup.start <;> simp [Call.added?, Call.removed?]

theorem reported_concat {config : VideoSourceConfig} {startup : Startup} (polls : List Poll) (poll : Poll) :
    reported config startup (polls ++ [poll]) =
      if startup.failure?.isNone then (reported config startup polls).poll poll
      else reported config startup polls := by
  unfold reported
  cases startup.failure? with
  | none => simp
  | some error => simp

def startup? : Label → Option Startup
  | .startSource startup => some startup
  | _ => none

def pollOf? (index : Nat) : Label → Option Poll
  | .update other poll => if other = index then some poll else none
  | _ => none

/-- What the sources have met, in order, and what the polls of one of them have found. -/
def startups (labels : List Label) : List Startup := labels.filterMap startup?

def pollsOf (index : Nat) (labels : List Label) : List Poll := labels.filterMap (pollOf? index)

/-- A runtime reports what follows from the outcome of its own source and its own polls. -/
structure Runtime.Reports (config : VideoSourceConfig) (index : Nat) (startup : Startup) (polls : List Poll)
    (runtime : Runtime) : Prop where
  name : runtime.diagnosticName = taskName config index
  session : runtime.session = startup.failure?.isNone
  state : runtime.state = reported config startup polls

theorem Runtime.Reports.update {config : VideoSourceConfig} {index : Nat} {startup : Startup} {polls : List Poll}
    {runtime : Runtime} (reports : runtime.Reports config index startup polls) (poll : Poll) :
    (runtime.update poll).Reports config index startup (polls ++ [poll]) := by
  unfold Runtime.update
  split_ifs with running
  · refine ⟨reports.name, reports.session, ?_⟩
    rw [reported_concat, if_pos (reports.session ▸ running), reports.state]
  · refine ⟨reports.name, reports.session, ?_⟩
    rw [reported_concat, if_neg (reports.session ▸ running), reports.state]

/-- The source has been through the second loop of the destructor. -/
def Phase.closed (index : Nat) : Phase → Bool
  | .closing left => left ≤ index
  | _ => false

/-- How many tasks the destructor has removed. -/
def Phase.removed (total : Nat) : Phase → Nat
  | .constructing => 0
  | .removing removed => removed
  | .closing _ => total

/-- What the destructor does for a session that was kept. -/
def Startup.closing (startup : Startup) (index : Nat) (closed : Bool) : List Call :=
  if startup.failure?.isNone && closed then [.stop index, .unpublish index] else []

variable {configs : List VideoSourceConfig} {labels : List Label}

/-- How the manager follows from the labels of the steps so far. -/
structure Invariant (configs : List VideoSourceConfig) (labels : List Label) (manager : Manager) : Prop where
  constructed : manager.phase ≠ .constructing → manager.runtimes.length = configs.length
  bounded : manager.runtimes.length ≤ configs.length ∧
    manager.phase.removed manager.runtimes.length ≤ manager.runtimes.length
  counted : (startups labels).length = manager.runtimes.length
  reports : ∀ (index : Nat) (runtime : Runtime), manager.runtimes[index]? = some runtime →
    ∃ config startup, configs[index]? = some config ∧ (startups labels)[index]? = some startup ∧
      runtime.Reports config index startup (pollsOf index labels) ∧
      manager.calls.filter (Call.lifecycleOf index) =
        startup.calls index ++ startup.closing index (manager.phase.closed index)
  absent : ∀ index, manager.runtimes.length ≤ index →
    manager.calls.filter (Call.lifecycleOf index) = [] ∧ pollsOf index labels = []
  added : manager.calls.filterMap Call.added? = manager.runtimes.map Runtime.diagnosticName
  removed : manager.calls.filterMap Call.removed? =
    (manager.runtimes.map Runtime.diagnosticName).take (manager.phase.removed manager.runtimes.length)

theorem Invariant.start : Invariant configs [] {} := by
  constructor <;> simp [Phase.removed, startups, pollsOf]

theorem startups_concat (labels : List Label) (label : Label) :
    startups (labels ++ [label]) = startups labels ++ (startup? label).toList := by
  rw [startups, List.filterMap_append, List.filterMap_cons]
  cases startup? label <;> rfl

theorem pollsOf_concat (index : Nat) (labels : List Label) (label : Label) :
    pollsOf index (labels ++ [label]) = pollsOf index labels ++ (pollOf? index label).toList := by
  rw [pollsOf, List.filterMap_append, List.filterMap_cons]
  cases pollOf? index label <;> rfl

theorem Invariant.startSource {manager : Manager} (inv : Invariant configs labels manager)
    (constructing : manager.phase = .constructing) {config : VideoSourceConfig}
    (next : configs[manager.runtimes.length]? = some config) (startup : Startup) :
    let started := startSource config manager.runtimes.length startup
    Invariant configs (labels ++ [.startSource startup]) { manager with
      runtimes := manager.runtimes ++ [started.1]
      calls := manager.calls ++ started.2 ++ [.addTask started.1.diagnosticName] } := by
  intro started
  have runtime : started.1 = _ := startSource_runtime config manager.runtimes.length startup
  have made : started.2 = startup.calls manager.runtimes.length := startSource_calls _ _ _
  have room := (List.getElem?_eq_some_iff.mp next).1
  have met : startups (labels ++ [.startSource startup]) = startups labels ++ [startup] := startups_concat _ _
  have polls : ∀ index, pollsOf index (labels ++ [.startSource startup]) = pollsOf index labels := by
    intro index
    rw [pollsOf_concat]
    exact List.append_nil _
  constructor
  · exact fun other => absurd constructing other
  · simp only [constructing, Phase.removed, List.length_append, List.length_singleton]
    omega
  · simp [met, inv.counted]
  · intro index found there
    simp only [met, polls, made, List.filter_append, filter_lifecycleOf_calls]
    rcases Nat.lt_trichotomy index manager.runtimes.length with earlier | rfl | later
    · rw [List.getElem?_append_left earlier] at there
      obtain ⟨own, outcome, configured, listed, reports, calls⟩ := inv.reports index found there
      refine ⟨own, outcome, configured, ?_, reports, ?_⟩
      · rw [List.getElem?_append_left (inv.counted ▸ earlier), listed]
      · simp [calls, Nat.ne_of_gt earlier, Call.lifecycleOf]
    · rw [List.getElem?_concat_length] at there
      cases there
      obtain ⟨unmade, unpolled⟩ := inv.absent _ (Nat.le_refl _)
      refine ⟨config, startup, next, ?_, ?_, ?_⟩
      · rw [← inv.counted, List.getElem?_concat_length]
      · rw [runtime, unpolled]
        exact ⟨rfl, rfl, rfl⟩
      · simp [unmade, Call.lifecycleOf, Startup.closing, Phase.closed, constructing]
    · rw [List.getElem?_eq_none_iff.mpr (by simpa using Nat.succ_le_of_lt later)] at there
      cases there
  · intro index beyond
    simp only [List.length_append, List.length_singleton] at beyond
    have apart : manager.runtimes.length ≠ index := by omega
    obtain ⟨unmade, unpolled⟩ := inv.absent index (by omega)
    rw [polls]
    refine ⟨?_, unpolled⟩
    simp only [List.filter_append, made, filter_lifecycleOf_calls, if_neg apart, unmade]
    rfl
  · simp [inv.added, made, filterMap_task_calls, Call.added?]
  · simp [inv.removed, made, filterMap_task_calls, Call.removed?, constructing, Phase.removed]

theorem Runtime.update_kept (runtime : Runtime) (poll : Poll) :
    (runtime.update poll).diagnosticName = runtime.diagnosticName := by
  unfold Runtime.update
  split_ifs <;> rfl

theorem filter_pollCalls (runtime : Runtime) (index other : Nat) :
    (runtime.pollCalls index).filter (Call.lifecycleOf other) = [] := by
  unfold Runtime.pollCalls
  split_ifs <;> rfl

theorem filterMap_task_pollCalls (runtime : Runtime) (index : Nat) :
    (runtime.pollCalls index).filterMap Call.added? = [] ∧
      (runtime.pollCalls index).filterMap Call.removed? = [] := by
  unfold Runtime.pollCalls
  split_ifs <;> exact ⟨rfl, rfl⟩

theorem Invariant.update {manager : Manager} (inv : Invariant configs labels manager) {index : Nat}
    {runtime : Runtime} (found : manager.runtimes[index]? = some runtime) (poll : Poll) :
    Invariant configs (labels ++ [.update index poll]) { manager with
      runtimes := manager.runtimes.set index (runtime.update poll)
      calls := manager.calls ++ runtime.pollCalls index } := by
  have inside := (List.getElem?_eq_some_iff.mp found).1
  have met : startups (labels ++ [.update index poll]) = startups labels := by
    rw [startups_concat]
    exact List.append_nil _
  have other : ∀ another, another ≠ index → pollsOf another (labels ++ [.update index poll]) = pollsOf another labels := by
    intro another apart
    rw [pollsOf_concat, pollOf?, if_neg apart.symm]
    exact List.append_nil _
  have names : (manager.runtimes.set index (runtime.update poll)).map Runtime.diagnosticName =
      manager.runtimes.map Runtime.diagnosticName := by
    apply List.ext_getElem?
    intro another
    rw [List.map_set, runtime.update_kept]
    by_cases same : index = another
    · subst another
      rw [List.getElem?_set_self (by simpa using inside), List.getElem?_map, found]
      rfl
    · rw [List.getElem?_set_ne same]
  constructor
  · simpa using inv.constructed
  · simpa using inv.bounded
  · rw [met, List.length_set, inv.counted]
  · intro another later there
    simp only [met, List.filter_append, filter_pollCalls, List.append_nil]
    by_cases same : another = index
    · subst another
      rw [List.getElem?_set_self inside] at there
      cases there
      obtain ⟨config, startup, configured, listed, reports, calls⟩ := inv.reports index runtime found
      refine ⟨config, startup, configured, listed, ?_, calls⟩
      rw [pollsOf_concat, pollOf?, if_pos rfl]
      exact reports.update poll
    · rw [List.getElem?_set_ne (Ne.symm same)] at there
      rw [other another same]
      exact inv.reports another later there
  · intro another beyond
    rw [List.length_set] at beyond
    rw [other another (by omega)]
    simpa only [List.filter_append, filter_pollCalls, List.append_nil] using inv.absent another beyond
  · rw [names]
    simp only [List.filterMap_append, inv.added, filterMap_task_pollCalls, List.append_nil]
  · rw [names, List.length_set]
    simp only [List.filterMap_append, inv.removed, filterMap_task_pollCalls, List.append_nil]

theorem Invariant.of_destructor {manager : Manager} {label : Label} (met : startup? label = none)
    (unpolled : ∀ index, pollOf? index label = none) (inv : Invariant configs labels manager) :
    Invariant configs (labels ++ [label]) manager := by
  have same : startups (labels ++ [label]) = startups labels := by simp [startups_concat, met]
  have polls : ∀ index, pollsOf index (labels ++ [label]) = pollsOf index labels := by
    simp [pollsOf_concat, unpolled]
  exact ⟨inv.constructed, inv.bounded, same ▸ inv.counted, by simpa only [same, polls] using inv.reports,
    by simpa only [polls] using inv.absent, inv.added, inv.removed⟩

theorem Invariant.removeTask {manager : Manager} (inv : Invariant configs labels manager) {removed : Nat}
    (removing : manager.phase = .removing removed) {runtime : Runtime}
    (found : manager.runtimes[removed]? = some runtime) :
    Invariant configs labels { manager with
      phase := .removing (removed + 1)
      calls := manager.calls ++ [.removeTask runtime.diagnosticName] } := by
  have before := inv.removed
  simp only [removing, Phase.removed] at before
  constructor
  · exact fun _ => inv.constructed (by simp [removing])
  · exact ⟨inv.bounded.1, (List.getElem?_eq_some_iff.mp found).1⟩
  · exact inv.counted
  · intro index other there
    simpa [Call.lifecycleOf, Phase.closed, removing] using inv.reports index other there
  · intro index beyond
    simpa [Call.lifecycleOf] using inv.absent index beyond
  · simp [inv.added, Call.added?]
  · simp only [List.filterMap_append, before, Phase.removed, List.take_add_one, List.getElem?_map, found]
    rfl

theorem Invariant.startClosing {manager : Manager} (inv : Invariant configs labels manager) {removed : Nat}
    (removing : manager.phase = .removing removed) (last : manager.runtimes[removed]? = none) :
    Invariant configs labels { manager with phase := .closing manager.runtimes.length } := by
  have all : removed = manager.runtimes.length := by
    have bounded := inv.bounded.2
    rw [removing] at bounded
    exact Nat.le_antisymm bounded (List.getElem?_eq_none_iff.mp last)
  constructor
  · exact fun _ => inv.constructed (by simp [removing])
  · exact ⟨inv.bounded.1, Nat.le_refl _⟩
  · exact inv.counted
  · intro index runtime found
    have inside : ¬ manager.runtimes.length ≤ index := by
      simpa using (List.getElem?_eq_some_iff.mp found).1
    simpa [Phase.closed, removing, inside] using inv.reports index runtime found
  · exact inv.absent
  · exact inv.added
  · have before := inv.removed
    rw [removing, Phase.removed, all] at before
    exact before

theorem filter_close {config : VideoSourceConfig} {index : Nat} {startup : Startup} {polls : List Poll}
    {runtime : Runtime} (reports : runtime.Reports config index startup polls) (other : Nat) (shutdown : Shutdown) :
    (runtime.close index shutdown).filter (Call.lifecycleOf other) =
      if index = other then startup.closing index true else [] := by
  unfold Runtime.close Startup.closing
  rw [reports.session]
  cases startup.failure?.isNone <;> by_cases same : index = other <;>
    simp [guarded, Call.lifecycleOf, same]

theorem filterMap_task_close (runtime : Runtime) (index : Nat) (shutdown : Shutdown) :
    (runtime.close index shutdown).filterMap Call.added? = [] ∧
      (runtime.close index shutdown).filterMap Call.removed? = [] := by
  unfold Runtime.close
  split_ifs <;> exact ⟨rfl, rfl⟩

theorem Invariant.close {manager : Manager} (inv : Invariant configs labels manager) {left : Nat}
    (closing : manager.phase = .closing (left + 1)) {runtime : Runtime}
    (found : manager.runtimes[left]? = some runtime) (shutdown : Shutdown) :
    Invariant configs labels { manager with
      phase := .closing left
      calls := manager.calls ++ runtime.close left shutdown } := by
  have before := inv.removed
  simp only [closing, Phase.removed] at before
  obtain ⟨config, startup, configured, listed, reports, made⟩ := inv.reports left runtime found
  constructor
  · exact fun _ => inv.constructed (by simp [closing])
  · exact ⟨inv.bounded.1, Nat.le_refl _⟩
  · exact inv.counted
  · intro index other there
    simp only [List.filter_append, filter_close reports, Phase.closed]
    by_cases same : left = index
    · subst same
      cases found.symm.trans there
      refine ⟨config, startup, configured, listed, reports, ?_⟩
      simp [made, Startup.closing, closing, Phase.closed]
    · have unmoved : (left + 1 ≤ index) = (left ≤ index) := by
        rw [eq_iff_iff]
        omega
      simpa [same, closing, Phase.closed, unmoved] using inv.reports index other there
  · intro index beyond
    have inside := (List.getElem?_eq_some_iff.mp found).1
    have apart : left ≠ index := Nat.ne_of_lt (Nat.lt_of_lt_of_le inside beyond)
    simpa [filter_close reports, apart] using inv.absent index beyond
  · simp only [List.filterMap_append, inv.added, filterMap_task_close, List.append_nil]
  · simp only [List.filterMap_append, before, filterMap_task_close, List.append_nil, Phase.removed]

theorem Invariant.step {manager next : Manager} {label : Label} (inv : Invariant configs labels manager)
    (stepped : (lifetime configs).step? manager label = some next) : Invariant configs (labels ++ [label]) next := by
  cases label with
  | startSource startup =>
      simp only [lifetime, step?] at stepped
      split at stepped
      next config constructing present =>
        cases stepped
        exact inv.startSource constructing present startup
      · cases stepped
  | update index poll =>
      simp only [lifetime, step?] at stepped
      split at stepped
      next runtime found =>
        split_ifs at stepped
        cases stepped
        exact inv.update found poll
      · cases stepped
  | destroy =>
      simp only [lifetime, step?] at stepped
      split_ifs at stepped with ready
      cases stepped
      have before := inv.removed
      simp only [ready.1, Phase.removed] at before
      refine .of_destructor rfl (fun _ => rfl) ⟨fun _ => ready.2, ⟨inv.bounded.1, Nat.zero_le _⟩, inv.counted, ?_,
        inv.absent, inv.added, before⟩
      intro index runtime found
      simpa [ready.1, Phase.closed] using inv.reports index runtime found
  | removeTask =>
      simp only [lifetime, step?] at stepped
      split at stepped
      next removed removing =>
        split at stepped
        next runtime found =>
          cases stepped
          exact .of_destructor rfl (fun _ => rfl) (inv.removeTask removing found)
        next last =>
          cases stepped
          exact .of_destructor rfl (fun _ => rfl) (inv.startClosing removing last)
      · cases stepped
  | close shutdown =>
      simp only [lifetime, step?] at stepped
      split at stepped
      next left closing =>
        split at stepped
        next runtime found =>
          cases stepped
          exact .of_destructor rfl (fun _ => rfl) (inv.close closing found shutdown)
        · cases stepped
      · cases stepped

theorem invariant_of_exec {manager : Manager} (ran : (lifetime configs).exec? {} labels = some manager) :
    Invariant configs labels manager :=
  Machine.exec?_invariant .start (fun inv stepped => inv.step stepped) ran

end Lifecycle

section Lifetime

def sessionCalls (startup : Startup) (index : Nat) : List Call :=
  if startup.complete then
    [.createAndPublish index, .start index, .stop index, .unpublish index]
  else [.createAndPublish index]

def taskNames (configs : List VideoSourceConfig) : List String :=
  configs.mapIdx fun index config => taskName config index

theorem taskNames_nodup (configs : List VideoSourceConfig) : (taskNames configs).Nodup := by
  rw [List.nodup_iff_getElem?_ne_getElem?]
  intro first second before inside same
  rw [taskNames, List.length_mapIdx] at inside
  simp only [taskNames, List.getElem?_mapIdx, List.getElem?_eq_getElem inside,
    List.getElem?_eq_getElem (Nat.lt_trans before inside), Option.map_some, Option.some.injEq] at same
  exact Nat.ne_of_lt before (taskName_injective same)

theorem Invariant.names {configs : List VideoSourceConfig} {labels : List Label} {manager : Manager}
    (inv : Invariant configs labels manager) (full : manager.runtimes.length = configs.length) :
    manager.runtimes.map Runtime.diagnosticName = taskNames configs := by
  apply List.ext_getElem?
  intro index
  rw [taskNames, List.getElem?_map, List.getElem?_mapIdx]
  cases found : manager.runtimes[index]? with
  | none =>
      rw [List.getElem?_eq_none_iff, full] at found
      simp [found]
  | some runtime =>
      obtain ⟨config, startup, configured, _, reports, _⟩ := inv.reports index runtime found
      simp [configured, reports.name]

/-- When a manager is gone, each complete session has been stopped once and then unpublished
once, whatever was thrown, and no other session was; and every task was added and removed. What
is reported of a source follows from its own outcome and its own polls. -/
theorem sessions_stopped_once (configs : List VideoSourceConfig) (labels : List Label) {manager : Manager}
    (ran : (lifetime configs).exec? {} labels = some manager) (gone : manager.gone = true) :
    (startups labels).length = configs.length ∧
    (∀ index config startup, configs[index]? = some config → (startups labels)[index]? = some startup →
      manager.calls.filter (Call.lifecycleOf index) = sessionCalls startup index ∧
      manager.runtimes[index]? =
        some ⟨taskName config index, reported config startup (pollsOf index labels), startup.failure?.isNone⟩) ∧
    manager.calls.filterMap Call.added? = taskNames configs ∧
    manager.calls.filterMap Call.removed? = taskNames configs ∧ (taskNames configs).Nodup := by
  have inv := invariant_of_exec ran
  have closed : manager.phase = .closing 0 := of_decide_eq_true gone
  have full := inv.constructed (by simp [closed])
  have names := inv.names full
  refine ⟨inv.counted.trans full, ?_, inv.added.trans names, ?_, taskNames_nodup configs⟩
  · intro index config startup configured met
    have inside : index < manager.runtimes.length := full ▸ (List.getElem?_eq_some_iff.mp configured).1
    obtain ⟨runtime, found⟩ : ∃ runtime, manager.runtimes[index]? = some runtime :=
      ⟨_, List.getElem?_eq_getElem inside⟩
    obtain ⟨other, outcome, same, own, reports, calls⟩ := inv.reports index runtime found
    cases configured.symm.trans same
    cases met.symm.trans own
    refine ⟨?_, ?_⟩
    · -- a session that started is closed by the destructor, and one that did not, by the constructor
      rw [calls, Startup.closing, startup.failure?_isNone, closed]
      unfold Startup.calls sessionCalls
      cases startup.complete <;> cases startup.start <;> simp [Phase.closed]
    · rw [found, ← reports.name, ← reports.state, ← reports.session]
  · have removed := inv.removed
    rw [closed, Phase.removed, names] at removed
    rw [removed]
    exact List.take_of_length_le (by simp [taskNames, full])

def camera : VideoSourceConfig := ⟨"front", "v4l2"⟩

def completeSession : Creation := .returned ⟨true, true, true, true⟩

/-- Two sources of one track: the first cannot be started and the second cannot be stopped. -/
def failingSources : List Label :=
  [.startSource ⟨completeSession, some (.standard "busy"), some .unknown, none⟩,
    .startSource ⟨completeSession, none, none, none⟩, .update 1 (.finished ⟨none, 9, .endOfStream⟩),
    .destroy, .removeTask, .removeTask, .removeTask, .close ⟨some "timeout", none⟩, .close ⟨none, none⟩]

theorem failing_sources_closed :
    ∃ manager, (lifetime [camera, camera]).exec? {} failingSources = some manager ∧
      (∀ index < 2, manager.calls.filter (Call.lifecycleOf index) =
        [.createAndPublish index, .start index, .stop index, .unpublish index]) ∧
      manager.calls.filterMap Call.removed? = taskNames [camera, camera] := by
  obtain ⟨manager, ran, gone⟩ := (Option.any_eq_true _ _).mp
    (show ((lifetime [camera, camera]).exec? {} failingSources).any Manager.gone = true by decide +kernel)
  obtain ⟨counted, stopped, _, removed, _⟩ := sessions_stopped_once [camera, camera] failingSources ran gone
  refine ⟨manager, ran, ?_, removed⟩
  intro index inside
  obtain rfl | rfl : index = 0 ∨ index = 1 := by omega
  · exact (stopped 0 camera _ rfl rfl).1
  · exact (stopped 1 camera _ rfl rfl).1

end Lifetime

end RosPortal.Video.SourceManager
