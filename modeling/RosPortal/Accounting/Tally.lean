import Mathlib.Algebra.BigOperators.Group.Finset.Basic
import Mathlib.Data.Fintype.Basic

/-! Counters that events add to: what each event adds, and what is in them after a run. -/

set_option autoImplicit false

namespace Accounting

section Events

variable {State Event Counter : Type} (step : State → Event → State) (count : State → Counter → Nat)

def AddsOneTo (counter : Counter) (before after : State) : Prop :=
  count after counter = count before counter + 1 ∧
    ∀ other, other ≠ counter → count after other = count before other

def EachAddsOne (start : State) (events : List Event) : Prop :=
  ∀ before event after, events = before ++ event :: after →
    ∃! counter, AddsOneTo count counter (before.foldl step start)
      (step (before.foldl step start) event)

variable {step count}

theorem AddsOneTo.unique {first second : Counter} {before after : State}
    (one : AddsOneTo count first before after) (other : AddsOneTo count second before after) :
    first = second := by
  by_contra distinct
  have kept := one.2 second (Ne.symm distinct)
  have added := other.1
  omega

theorem EachAddsOne.earlier {start : State} {before after : List Event}
    (each : EachAddsOne step count start (before ++ after)) : EachAddsOne step count start before := by
  intro earlier event later split
  exact each earlier event (later ++ after) (by simp [split])

theorem eachAddsOne_of_step {start : State} {events : List Event}
    (adds : ∀ event ∈ events, ∀ state, ∃ counter, AddsOneTo count counter state (step state event)) :
    EachAddsOne step count start events := by
  intro before event after split
  have member : event ∈ events := by simp [split]
  obtain ⟨counter, one⟩ := adds event member (before.foldl step start)
  exact ⟨counter, one, fun _ other => other.unique one⟩

variable [Fintype Counter]

theorem AddsOneTo.total {counter : Counter} {before after : State}
    (one : AddsOneTo count counter before after) :
    ∑ each, count after each = ∑ each, count before each + 1 := by
  classical
  rw [← Finset.add_sum_erase _ _ (Finset.mem_univ counter),
    ← Finset.add_sum_erase _ (count before) (Finset.mem_univ counter), one.1]
  have rest : ∑ each ∈ Finset.univ.erase counter, count after each =
      ∑ each ∈ Finset.univ.erase counter, count before each := by
    apply Finset.sum_congr rfl
    intro other member
    exact one.2 other (Finset.ne_of_mem_erase member)
  omega

/-- Where each event adds one to one counter, the counters together count the events. -/
theorem EachAddsOne.total {start : State} {events : List Event}
    (each : EachAddsOne step count start events) :
    ∑ counter, count (events.foldl step start) counter =
      ∑ counter, count start counter + events.length := by
  induction events using List.reverseRecOn with
  | nil => rfl
  | append_singleton earlier event ih =>
      obtain ⟨counter, one, _⟩ := each earlier event [] rfl
      rw [List.foldl_concat, one.total, ih each.earlier, List.length_append]
      rfl

end Events

section Kinds

variable {Event : Type} (added : Event → Nat) (kind : Event → Bool)

def tally (events : List Event) : Nat := events.foldl (fun counted event => counted + added event) 0

variable {added kind}

/-- After every part of a run the counter holds how many events of a kind there were, exactly
when each event of the run adds one to it if it is of that kind and nothing otherwise. -/
theorem tally_eq_countP_iff {events : List Event} :
    (∀ earlier, earlier <+: events → tally added earlier = earlier.countP kind) ↔
      ∀ event ∈ events, added event = (kind event).toNat := by
  induction events using List.reverseRecOn with
  | nil => simp [tally]
  | append_singleton events event ih =>
      simp only [List.prefix_concat_iff, ih, List.mem_append, List.mem_singleton, or_imp, forall_and,
        forall_eq]
      rw [and_comm]
      refine and_congr_right ?_
      intro earlier
      have before := ih.mpr earlier events List.prefix_rfl
      rw [tally] at before
      rw [tally, List.foldl_concat, before, List.countP_append, List.countP_singleton]
      cases kind event with
      | true => simp
      | false => simp

end Kinds

end Accounting
