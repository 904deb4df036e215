import Mathlib.Data.List.Induction

/-! Labelled machines and their runs. Everything the environment chooses is in
the label, so one step is a function and a schedule can be executed. A run may
be restricted to the steps that meet a condition in the state they leave. -/

set_option autoImplicit false

namespace Interleaving

/-- A machine is its partial step function; `none` means the label is not enabled. -/
structure Machine (State Label : Type) where
  step? : State → Label → Option State

namespace Machine

variable {State Label : Type}

def exec? (machine : Machine State Label) : State → List Label → Option State
  | state, [] => some state
  | state, label :: labels => (machine.step? state label).bind (machine.exec? · labels)

/-- The states reached from `start` by steps that are all permitted where they are taken. -/
inductive Run (machine : Machine State Label) (permitted : State → Label → Prop)
    (start : State) : State → Prop where
  | refl : Run machine permitted start start
  | step {state next : State} {label : Label} :
      Run machine permitted start state → permitted state label →
      machine.step? state label = some next → Run machine permitted start next

abbrev Reaches (machine : Machine State Label) : State → State → Prop :=
  machine.Run fun _ _ => True

def restrict (machine : Machine State Label) (permitted : State → Label → Prop)
    [∀ state label, Decidable (permitted state label)] : Machine State Label where
  step? state label := if permitted state label then machine.step? state label else none

theorem Run.invariant {machine : Machine State Label} {permitted : State → Label → Prop}
    {start final : State} {holds : State → Prop} (initially : holds start)
    (preserved : ∀ {state next : State} {label : Label}, holds state → permitted state label →
      machine.step? state label = some next → holds next)
    (run : machine.Run permitted start final) : holds final := by
  induction run with
  | refl => exact initially
  | step _ allowed stepped ih => exact preserved ih allowed stepped

/-- An invariant may be proved on top of one that is already known of every run. -/
theorem Run.invariant_with {machine : Machine State Label} {permitted : State → Label → Prop}
    {start final : State} {known holds : State → Prop}
    (background : ∀ {state : State}, machine.Run permitted start state → known state)
    (initially : holds start)
    (preserved : ∀ {state next : State} {label : Label}, known state → holds state →
      permitted state label → machine.step? state label = some next → holds next)
    (run : machine.Run permitted start final) : holds final := by
  induction run with
  | refl => exact initially
  | step earlier allowed stepped ih => exact preserved (background earlier) ih allowed stepped

theorem Run.mono {machine : Machine State Label} {narrow wide : State → Label → Prop}
    (weaker : ∀ state label, narrow state label → wide state label) {start final : State}
    (run : machine.Run narrow start final) : machine.Run wide start final := by
  induction run with
  | refl => exact .refl
  | step _ allowed stepped ih => exact .step ih (weaker _ _ allowed) stepped

theorem Run.reaches {machine : Machine State Label} {permitted : State → Label → Prop}
    {start final : State} (run : machine.Run permitted start final) :
    machine.Reaches start final :=
  run.mono fun _ _ _ => trivial

theorem Run.trans {machine : Machine State Label} {permitted : State → Label → Prop}
    {start middle final : State} (first : machine.Run permitted start middle)
    (second : machine.Run permitted middle final) : machine.Run permitted start final := by
  induction second with
  | refl => exact first
  | step _ allowed stepped ih => exact .step ih allowed stepped

private theorem run_append_exec {machine : Machine State Label} {permitted : State → Label → Prop}
    [∀ state label, Decidable (permitted state label)] {start middle final : State}
    {labels : List Label} (before : machine.Run permitted start middle)
    (executed : (machine.restrict permitted).exec? middle labels = some final) :
    machine.Run permitted start final := by
  induction labels generalizing middle with
  | nil =>
      cases executed
      exact before
  | cons label labels ih =>
      obtain ⟨next, stepped, rest⟩ := Option.bind_eq_some_iff.mp executed
      by_cases allowed : permitted middle label
      · simp only [restrict, if_pos allowed] at stepped
        exact ih (.step before allowed stepped) rest
      · simp [restrict, allowed] at stepped

/-- Executing a schedule of the restricted machine is a run whose steps all meet the condition. -/
theorem Run.of_exec {machine : Machine State Label} {permitted : State → Label → Prop}
    [∀ state label, Decidable (permitted state label)] {start final : State} (labels : List Label)
    (executed : (machine.restrict permitted).exec? start labels = some final) :
    machine.Run permitted start final :=
  run_append_exec .refl executed

theorem Reaches.of_exec {machine : Machine State Label} {start final : State} (labels : List Label)
    (executed : machine.exec? start labels = some final) : machine.Reaches start final := by
  have unrestricted : machine.restrict (fun _ _ => True) = machine := by
    simp [restrict]
  exact Run.of_exec labels (unrestricted.symm ▸ executed)

theorem exec?_append (machine : Machine State Label) (state : State) (first second : List Label) :
    machine.exec? state (first ++ second) = (machine.exec? state first).bind (machine.exec? · second) := by
  induction first generalizing state with
  | nil => rfl
  | cons label first ih =>
      simp only [List.cons_append, exec?, Option.bind_assoc]
      exact congrArg _ (funext ih)

/-- What relates a state to the labels that led to it holds after every schedule that can be executed. -/
theorem exec?_invariant {machine : Machine State Label} {start final : State} {holds : List Label → State → Prop}
    (initially : holds [] start)
    (preserved : ∀ {labels : List Label} {state next : State} {label : Label}, holds labels state →
      machine.step? state label = some next → holds (labels ++ [label]) next)
    {labels : List Label} (executed : machine.exec? start labels = some final) : holds labels final := by
  induction labels using List.reverseRecOn generalizing final with
  | nil =>
      cases executed
      exact initially
  | append_singleton labels label ih =>
      rw [exec?_append] at executed
      obtain ⟨state, earlier, last⟩ := Option.bind_eq_some_iff.mp executed
      obtain ⟨next, stepped, same⟩ := Option.bind_eq_some_iff.mp last
      cases same
      exact preserved (ih earlier) stepped

/-- A schedule that can be executed and ends in a state with a decidable property. -/
theorem Run.exists_of_exec (machine : Machine State Label) (permitted : State → Label → Prop)
    [∀ state label, Decidable (permitted state label)] (start : State) (labels : List Label)
    (holds : State → Prop) [DecidablePred holds]
    (executed : ((machine.restrict permitted).exec? start labels).any (fun final => decide (holds final)) =
      true) : ∃ final, machine.Run permitted start final ∧ holds final := by
  obtain ⟨final, ran, held⟩ := (Option.any_eq_true _ _).mp executed
  exact ⟨final, .of_exec labels ran, of_decide_eq_true held⟩

theorem Reaches.exists_of_exec (machine : Machine State Label) (start : State) (labels : List Label)
    (holds : State → Prop) [DecidablePred holds]
    (executed : (machine.exec? start labels).any (fun final => decide (holds final)) = true) :
    ∃ final, machine.Reaches start final ∧ holds final := by
  obtain ⟨final, ran, held⟩ := (Option.any_eq_true _ _).mp executed
  exact ⟨final, .of_exec labels ran, of_decide_eq_true held⟩

end Machine

end Interleaving
