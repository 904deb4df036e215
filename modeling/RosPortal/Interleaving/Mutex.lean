import RosPortal.Interleaving.ThreadPool

/-! A lock in the shared state of a pool, and the control points that are inside it. -/

set_option autoImplicit false

namespace Interleaving

variable {Shared Control Choice : Type}

/-- A thread gets inside only by taking the lock, which is free then, and only a thread that
leaves gives it back. -/
structure Program.Guards (program : Program Shared Control Choice) (held : Shared → Bool)
    (inside : Control → Bool) : Prop where
  enters : ∀ {shared shared' : Shared} {before after : Control} {choice : Choice},
    program.advance shared before choice = some (shared', after) →
      inside before = false → inside after = true → held shared = false ∧ held shared' = true
  keeps : ∀ {shared shared' : Shared} {before after : Control} {choice : Choice},
    program.advance shared before choice = some (shared', after) →
      inside after = inside before → held shared' = held shared

/-- A thread inside has the lock, and it is the only one. -/
structure Pool.Exclusive (pool : Pool Shared Control) (held : Shared → Bool)
    (inside : Control → Bool) : Prop where
  held : ∀ {thread : Nat} {control : Control}, pool.threads[thread]? = some control →
    inside control = true → held pool.shared = true
  alone : ∀ {first second : Nat} {one other : Control}, pool.threads[first]? = some one →
    pool.threads[second]? = some other → inside one = true → inside other = true → first = second

section Steps

variable {program : Program Shared Control Choice} {held : Shared → Bool} {inside : Control → Bool}

theorem Pool.Exclusive.start {pool : Pool Shared Control} (outside : pool.Nowhere inside) :
    pool.Exclusive held inside := by
  constructor
  · intro thread control found entered
    rw [outside.thread found] at entered
    cases entered
  · intro first second one other found _ entered
    rw [outside.thread found] at entered
    cases entered

theorem Program.Guards.step (guards : program.Guards held inside) {pool next : Pool Shared Control}
    {thread : Nat} {choice : Choice} {before after : Control}
    (stepped : program.StepOf pool thread choice next before after)
    (exclusive : pool.Exclusive held inside) : next.Exclusive held inside := by
  -- another thread that is inside was there before, so the advanced thread was not and is not
  have others : ∀ {other : Nat} {control : Control}, other ≠ thread →
      pool.threads[other]? = some control → inside control = true →
        inside before = false ∧ inside after = false := by
    intro other control different found entered
    have outside : inside before = false := by
      by_contra both
      rw [Bool.not_eq_false] at both
      exact different (exclusive.alone found stepped.running entered both)
    refine ⟨outside, ?_⟩
    by_contra arrived
    rw [Bool.not_eq_false] at arrived
    have free := (guards.enters stepped.advanced outside arrived).1
    rw [exclusive.held found entered] at free
    cases free
  constructor
  · intro other control found entered
    rcases stepped.thread_cases found with ⟨_, rfl⟩ | ⟨different, earlier⟩
    · cases was : inside before with
      | true =>
          rw [guards.keeps stepped.advanced (entered.trans was.symm)]
          exact exclusive.held stepped.running was
      | false => exact (guards.enters stepped.advanced was entered).2
    · obtain ⟨outside, stayed⟩ := others different earlier entered
      rw [guards.keeps stepped.advanced (stayed.trans outside.symm)]
      exact exclusive.held earlier entered
  · intro first second one other firstFound secondFound oneInside otherInside
    rcases stepped.thread_cases firstFound with ⟨rfl, rfl⟩ | ⟨firstDifferent, firstEarlier⟩ <;>
      rcases stepped.thread_cases secondFound with ⟨rfl, rfl⟩ | ⟨secondDifferent, secondEarlier⟩
    · rfl
    · rw [(others secondDifferent secondEarlier otherInside).2] at oneInside
      cases oneInside
    · rw [(others firstDifferent firstEarlier oneInside).2] at otherInside
      cases otherInside
    · exact exclusive.alone firstEarlier secondEarlier oneInside otherInside

/-- In every run, no two threads are inside at once. -/
theorem Program.Guards.exclusive (guards : program.Guards held inside)
    {start pool : Pool Shared Control} (outside : start.Nowhere inside)
    (run : program.machine.Reaches start pool) : pool.Exclusive held inside := by
  induction run with
  | refl => exact .start outside
  | step _ _ stepped exclusive =>
      obtain ⟨before, after, step⟩ := Program.stepOf stepped
      exact guards.step step exclusive

end Steps

end Interleaving
