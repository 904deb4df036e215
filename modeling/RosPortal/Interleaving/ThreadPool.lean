import RosPortal.Interleaving.Machine

/-! Threads over shared memory. A program advances one thread by one atomic
step; a pool interleaves any number of threads that run it. -/

set_option autoImplicit false

namespace Interleaving

/-- One atomic step of a thread changes the shared state and its own control point. -/
structure Program (Shared Control Choice : Type) where
  advance : Shared → Control → Choice → Option (Shared × Control)

structure Pool (Shared Control : Type) where
  shared : Shared
  threads : List Control
deriving DecidableEq, Repr

variable {Shared Control Choice : Type}

def Pool.Somewhere (pool : Pool Shared Control) (kind : Control → Bool) : Prop :=
  ∃ control ∈ pool.threads, kind control = true

def Pool.Nowhere (pool : Pool Shared Control) (kind : Control → Bool) : Prop :=
  ∀ control ∈ pool.threads, kind control = false

instance (pool : Pool Shared Control) (kind : Control → Bool) : Decidable (pool.Nowhere kind) :=
  inferInstanceAs (Decidable (∀ control ∈ pool.threads, kind control = false))

instance (pool : Pool Shared Control) (kind : Control → Bool) : Decidable (pool.Somewhere kind) :=
  inferInstanceAs (Decidable (∃ control ∈ pool.threads, kind control = true))

theorem Pool.somewhere_of_thread {pool : Pool Shared Control} {kind : Control → Bool}
    {thread : Nat} {control : Control} (found : pool.threads[thread]? = some control)
    (holds : kind control = true) : pool.Somewhere kind :=
  ⟨control, List.mem_of_getElem? found, holds⟩

theorem Pool.Somewhere.thread {pool : Pool Shared Control} {kind : Control → Bool}
    (somewhere : pool.Somewhere kind) :
    ∃ (thread : Nat) (control : Control), pool.threads[thread]? = some control ∧ kind control = true := by
  obtain ⟨control, member, holds⟩ := somewhere
  obtain ⟨thread, found⟩ := List.mem_iff_getElem?.mp member
  exact ⟨thread, control, found, holds⟩

theorem Pool.Nowhere.thread {pool : Pool Shared Control} {kind : Control → Bool}
    (nowhere : pool.Nowhere kind) {thread : Nat} {control : Control}
    (found : pool.threads[thread]? = some control) : kind control = false :=
  nowhere control (List.mem_of_getElem? found)

theorem Pool.Nowhere.not_somewhere {pool : Pool Shared Control} {kind : Control → Bool}
    (nowhere : pool.Nowhere kind) : ¬ pool.Somewhere kind := by
  rintro ⟨control, member, holds⟩
  rw [nowhere control member] at holds
  cases holds

theorem Pool.nowhere_iff {pool : Pool Shared Control} {kind : Control → Bool} :
    pool.Nowhere kind ↔ ¬ pool.Somewhere kind := by
  simp [Pool.Nowhere, Pool.Somewhere]

namespace Program

def machine (program : Program Shared Control Choice) :
    Machine (Pool Shared Control) (Nat × Choice) where
  step? pool label :=
    match pool.threads[label.1]? with
    | none => none
    | some control =>
        match program.advance pool.shared control label.2 with
        | none => none
        | some (shared, after) => some ⟨shared, pool.threads.set label.1 after⟩

/-- What one step of a pool is: one thread is advanced and every other thread stays. -/
structure StepOf (program : Program Shared Control Choice) (pool : Pool Shared Control)
    (thread : Nat) (choice : Choice) (next : Pool Shared Control)
    (before after : Control) : Prop where
  running : pool.threads[thread]? = some before
  advanced : program.advance pool.shared before choice = some (next.shared, after)
  advancedTo : next.threads[thread]? = some after
  others : ∀ other, other ≠ thread → next.threads[other]? = pool.threads[other]?

theorem stepOf {program : Program Shared Control Choice} {pool next : Pool Shared Control}
    {label : Nat × Choice} (stepped : program.machine.step? pool label = some next) :
    ∃ before after, program.StepOf pool label.1 label.2 next before after := by
  simp only [machine] at stepped
  cases found : pool.threads[label.1]? with
  | none => simp [found] at stepped
  | some before =>
      simp only [found] at stepped
      cases moved : program.advance pool.shared before label.2 with
      | none => simp [moved] at stepped
      | some result =>
          obtain ⟨shared, after⟩ := result
          simp only [moved, Option.some.injEq] at stepped
          subst stepped
          obtain ⟨inside, _⟩ := List.getElem?_eq_some_iff.mp found
          refine ⟨before, after, found, moved, by simp [inside], ?_⟩
          intro other different
          simp [List.getElem?_set_ne different.symm]

section Step

variable {program : Program Shared Control Choice} {pool next : Pool Shared Control}
  {thread : Nat} {choice : Choice} {before after : Control}

theorem StepOf.thread_cases (stepped : program.StepOf pool thread choice next before after)
    {other : Nat} {control : Control} (found : next.threads[other]? = some control) :
    (other = thread ∧ control = after) ∨ (other ≠ thread ∧ pool.threads[other]? = some control) := by
  by_cases same : other = thread
  · subst other
    rw [stepped.advancedTo] at found
    exact .inl ⟨rfl, (Option.some.inj found).symm⟩
  · exact .inr ⟨same, (stepped.others other same).symm.trans found⟩

/-- The kinds of control points in the pool after the step: the new one of the
advanced thread, or one that another thread already had. -/
theorem StepOf.nowhere (stepped : program.StepOf pool thread choice next before after)
    {kind : Control → Bool} (nowhere : pool.Nowhere kind) (arrived : kind after = false) :
    next.Nowhere kind := by
  intro control member
  obtain ⟨other, found⟩ := List.mem_iff_getElem?.mp member
  rcases stepped.thread_cases found with ⟨_, rfl⟩ | ⟨_, earlier⟩
  · exact arrived
  · exact nowhere.thread earlier

theorem StepOf.somewhere_arrived (stepped : program.StepOf pool thread choice next before after)
    {kind : Control → Bool} (arrived : kind after = true) : next.Somewhere kind :=
  Pool.somewhere_of_thread stepped.advancedTo arrived

theorem StepOf.somewhere_kept (stepped : program.StepOf pool thread choice next before after)
    {kind : Control → Bool} (somewhere : pool.Somewhere kind)
    (still : kind before = true → kind after = true) : next.Somewhere kind := by
  obtain ⟨other, control, found, holds⟩ := somewhere.thread
  by_cases same : other = thread
  · subst other
    rw [stepped.running] at found
    cases found
    exact stepped.somewhere_arrived (still holds)
  · exact Pool.somewhere_of_thread ((stepped.others other same).trans found) holds

/-- What holds of each thread and the shared state is kept if the advanced thread arrives at it
and no thread can lose it by the step. -/
theorem StepOf.everywhere (stepped : program.StepOf pool thread choice next before after)
    {holds : Shared → Control → Prop}
    (earlier : ∀ control ∈ pool.threads, holds pool.shared control)
    (arrived : holds next.shared after)
    (kept : ∀ control, holds pool.shared control → holds next.shared control) :
    ∀ control ∈ next.threads, holds next.shared control := by
  intro control member
  obtain ⟨other, found⟩ := List.mem_iff_getElem?.mp member
  rcases stepped.thread_cases found with ⟨_, rfl⟩ | ⟨_, before⟩
  · exact arrived
  · exact kept control (earlier control (List.mem_of_getElem? before))

theorem StepOf.countP (stepped : program.StepOf pool thread choice next before after)
    (kind : Control → Bool) :
    next.threads.countP kind + (kind before).toNat = pool.threads.countP kind + (kind after).toNat := by
  obtain ⟨inside, found⟩ := List.getElem?_eq_some_iff.mp stepped.running
  have moved : next.threads = pool.threads.set thread after := by
    apply List.ext_getElem?
    intro other
    by_cases same : other = thread
    · subst other
      rw [stepped.advancedTo, List.getElem?_set_self inside]
    · rw [stepped.others other same, List.getElem?_set_ne (Ne.symm same)]
  have counted : (kind before).toNat ≤ pool.threads.countP kind := by
    cases holds : kind before with
    | false => exact Nat.zero_le _
    | true => exact List.countP_pos_iff.mpr ⟨before, List.mem_of_getElem? stepped.running, holds⟩
  rw [moved, List.countP_set inside, found]
  have weight : ∀ holds : Bool, (if holds then 1 else 0) = holds.toNat := by decide
  rw [weight, weight]
  omega

section Counters

variable {permitted : Pool Shared Control → Nat × Choice → Prop} {final : Pool Shared Control}
  {counter : Shared → Nat} {kind : Control → Bool}

/-- A counter that grows by no more than the threads of a kind do, never exceeds their number. -/
theorem counter_le_of_run
    (adds : ∀ {shared shared' : Shared} {before after : Control} {choice : Choice},
      program.advance shared before choice = some (shared', after) →
        counter shared' + (kind before).toNat ≤ counter shared + (kind after).toNat)
    (initially : counter pool.shared ≤ pool.threads.countP kind)
    (run : program.machine.Run permitted pool final) : counter final.shared ≤ final.threads.countP kind := by
  induction run with
  | refl => exact initially
  | step _ _ stepped ih =>
      obtain ⟨before, after, step⟩ := stepOf stepped
      have grown := adds step.advanced
      have counted := step.countP kind
      omega

theorem le_counter_of_run
    (adds : ∀ {shared shared' : Shared} {before after : Control} {choice : Choice},
      program.advance shared before choice = some (shared', after) →
        counter shared + (kind after).toNat ≤ counter shared' + (kind before).toNat)
    (initially : pool.threads.countP kind ≤ counter pool.shared)
    (run : program.machine.Run permitted pool final) : final.threads.countP kind ≤ counter final.shared := by
  induction run with
  | refl => exact initially
  | step _ _ stepped ih =>
      obtain ⟨before, after, step⟩ := stepOf stepped
      have grown := adds step.advanced
      have counted := step.countP kind
      omega

end Counters

end Step

def solo? (program : Program Shared Control Choice) :
    Shared → Control → List Choice → Option (Shared × Control)
  | shared, control, [] => some (shared, control)
  | shared, control, choice :: choices =>
      (program.advance shared control choice).bind fun result =>
        program.solo? result.1 result.2 choices

theorem solo?_append {program : Program Shared Control Choice} {shared : Shared} {control : Control}
    (first second : List Choice) :
    program.solo? shared control (first ++ second) =
      (program.solo? shared control first).bind fun result => program.solo? result.1 result.2 second := by
  induction first generalizing shared control with
  | nil => rfl
  | cons choice first ih =>
      simp only [List.cons_append, solo?, Option.bind_assoc]
      congr 1
      funext result
      exact ih

/-- What a thread does on its own, it can do inside any pool, if its steps are
permitted there, and the other threads stay where they are. -/
theorem run_of_solo {program : Program Shared Control Choice}
    {permitted : Pool Shared Control → Nat × Choice → Prop} (choices : List Choice)
    {pool : Pool Shared Control} {thread : Nat} {control after : Control} {shared : Shared}
    (found : pool.threads[thread]? = some control)
    (allowed : ∀ choice ∈ choices, ∀ state, permitted state (thread, choice))
    (ran : program.solo? pool.shared control choices = some (shared, after)) :
    ∃ final, program.machine.Run permitted pool final ∧ final.shared = shared ∧
      ∀ other, other ≠ thread → final.threads[other]? = pool.threads[other]? := by
  induction choices generalizing pool control with
  | nil =>
      cases ran
      exact ⟨pool, .refl, rfl, fun _ _ => rfl⟩
  | cons choice choices ih =>
      obtain ⟨⟨middle, moved⟩, advanced, rest⟩ := Option.bind_eq_some_iff.mp ran
      obtain ⟨inside, _⟩ := List.getElem?_eq_some_iff.mp found
      have stepped : program.machine.step? pool (thread, choice) =
          some ⟨middle, pool.threads.set thread moved⟩ := by
        simp [machine, found, advanced]
      have there : (⟨middle, pool.threads.set thread moved⟩ : Pool Shared Control).threads[thread]? =
          some moved := by
        simp [inside]
      obtain ⟨final, run, same, others⟩ := ih there
        (fun later member => allowed later (List.mem_cons_of_mem _ member)) rest
      refine ⟨final, Machine.Run.trans (.step .refl (allowed choice List.mem_cons_self pool) stepped) run,
        same, ?_⟩
      intro other different
      rw [others other different]
      simp [List.getElem?_set_ne different.symm]

theorem reaches_of_solo {program : Program Shared Control Choice} (choices : List Choice)
    {pool : Pool Shared Control} {thread : Nat} {control after : Control} {shared : Shared}
    (found : pool.threads[thread]? = some control)
    (ran : program.solo? pool.shared control choices = some (shared, after)) :
    ∃ final, program.machine.Reaches pool final ∧ final.shared = shared ∧
      ∀ other, other ≠ thread → final.threads[other]? = pool.threads[other]? :=
  run_of_solo choices found (fun _ _ _ => trivial) ran

end Program

end Interleaving
